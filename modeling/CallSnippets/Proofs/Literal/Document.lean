import CallSnippets.Proofs.Json.Accepted
import CallSnippets.Proofs.Json.Closed
import CallSnippets.Proofs.Literal.Bare

/-!
# The keys of a document

Keys are rewritten by a search for strings that a colon follows, which knows nothing of values and
their nesting. On the text of a document it finds the keys of the document, and nothing else.

Two things have to agree for this. The search must see strings where the document has them, which it
does because it takes escapes as a whole as the document does, so that no mark inside of a string ends
it and no mark outside is passed over. And a string must have a colon behind it exactly if it is a key.
This is where the structure of the document comes in: behind a value there is a comma, a closing
bracket, or the end of the text, with white space before it, so the search is followed through a value
for every rest of the text that does not start with a colon.

## Main definitions

* `Rewrites`: A key is rewritten from one way of writing it to another one.

## Theorems

* `stringEnd_chars`: A string ends where its letters end.
* `colonSplit_gap`: White space does not change whether there is a colon.
* `Tree.unquoted_textWith`: The keys of a value, by its structure, from any way of writing them to another.
* `rewriteKeys_document`: The keys of a document, and documents are all that is accepted as JSON.
-/

namespace CallSnippets

namespace Json

/-! ## The ends of strings -/

theorem stringEnd_cons {c : CodePoint} (hmark : c ≠ stringMark) (hback : c ≠ escapeMark) (t : Text) :
    stringEnd (c :: t) = (stringEnd t).map fun p => (c :: p.1, p.2) :=
  stringEnd.eq_5 c t hmark (fun h _ => hback h) (fun _ _ h _ => hback h)

theorem stringEnd_append {a : Text} (h : ∀ c ∈ a, c ≠ stringMark ∧ c ≠ escapeMark) (t : Text) :
    stringEnd (a ++ t) = (stringEnd t).map fun p => (a ++ p.1, p.2) := by
  induction a with
  | nil =>
      simp only [List.nil_append]
      cases stringEnd t <;> rfl
  | cons c rest ih =>
      rcases h c (List.mem_cons_self ..) with ⟨hmark, hback⟩
      rw [List.cons_append, stringEnd_cons hmark hback, ih fun d hd => h d (List.mem_cons_of_mem c hd),
        Option.map_map]
      rfl

theorem stringEnd_escape (c : CodePoint) (t : Text) :
    stringEnd (escapeMark :: c :: t) = (stringEnd t).map fun p => (escapeMark :: c :: p.1, p.2) :=
  stringEnd.eq_4 c t

/-- A letter is passed over as a whole. -/
theorem stringEnd_letter (letter : Letter) (t : Text) :
    stringEnd (letter.text ++ t) = (stringEnd t).map fun p => (letter.text ++ p.1, p.2) := by
  cases letter with
  | plain c h =>
      simp only [isPlain, Bool.and_eq_true, decide_eq_true_eq] at h
      exact stringEnd_cons h.1.1 h.1.2 t
  | escape c _ => exact stringEnd_escape c t
  | code digits _ hex =>
      -- Only the letter behind the backslash is taken with it, so the digits must not end the string.
      have hdigits : ∀ c ∈ digits, c ≠ stringMark ∧ c ≠ escapeMark := by
        intro c hc
        rcases hex_not_special (hex c hc) with ⟨hinert, hback⟩
        exact ⟨ne_of_isInert hinert (by decide), hback⟩
      rw [Letter.text, List.cons_append, List.cons_append, stringEnd_escape,
        stringEnd_append hdigits, Option.map_map]
      rfl

/-- A string ends where its letters end. -/
theorem stringEnd_chars (letters : List Letter) (rest : Text) :
    stringEnd (chars letters ++ stringMark :: rest) = some (chars letters, rest) := by
  induction letters with
  | nil => exact stringEnd.eq_2 rest
  | cons letter more ih =>
      rw [chars_cons, List.append_assoc, stringEnd_letter, ih, Option.map_some]

/-! ## Colons -/

theorem colonSplit_blank {c : CodePoint} (hcolon : c ≠ keyMark) (hblank : Text.isBlank c = true)
    (t : Text) : colonSplit (c :: t) = (colonSplit t).map fun p => (c :: p.1, p.2) := by
  rw [colonSplit, if_neg hcolon, if_pos hblank]

theorem colonSplit_none {c : CodePoint} (hcolon : c ≠ keyMark) (hblank : Text.isBlank c = false)
    (t : Text) : colonSplit (c :: t) = none := by
  rw [colonSplit, if_neg hcolon, if_neg (by rw [hblank]; decide)]

theorem space_isBlank {c : CodePoint} (h : isSpace c = true) :
    c ≠ keyMark ∧ Text.isBlank c = true := by
  simp only [isSpace, Bool.or_eq_true, decide_eq_true_eq] at h
  rcases h with ((rfl | rfl) | rfl) | rfl <;> decide

/-- White space does not change whether there is a colon. -/
theorem colonSplit_gap (gap : Gap) (t : Text) :
    colonSplit (gap.text ++ t) = (colonSplit t).map fun p => (gap.text ++ p.1, p.2) := by
  cases gap with
  | mk text h =>
      induction text with
      | nil =>
          simp only [List.nil_append]
          cases colonSplit t <;> rfl
      | cons c rest ih =>
          rcases space_isBlank (h c (List.mem_cons_self ..)) with ⟨hcolon, hblank⟩
          have hrest := ih fun d hd => h d (List.mem_cons_of_mem c hd)
          simp only at hrest ⊢
          rw [List.cons_append, colonSplit_blank hcolon hblank, hrest, Option.map_map]
          rfl

/-- There is a colon behind the white space of a key. -/
theorem colonSplit_key (gap : Gap) (t : Text) :
    colonSplit (gap.text ++ keyMark :: t) = some (gap.text, t) := by
  rw [colonSplit_gap, colonSplit, if_pos rfl, Option.map_some, List.append_nil]

/-- There is no colon behind white space if there is none without it. -/
theorem colonSplit_after (gap : Gap) {t : Text} (h : colonSplit t = none) :
    colonSplit (gap.text ++ t) = none := by
  rw [colonSplit_gap, h, Option.map_none]

/-! ## Text between strings -/

/-- Text that holds no marks is copied. -/
theorem unquoted_quiet {t : Text} (h : ∀ c ∈ t, isQuiet c = true) (rest : Text) :
    unquoted (t ++ rest) = t ++ unquoted rest :=
  unquoted_append (fun c hc => ne_of_isInert (isQuiet_iff.mp (h c hc)).1 (by decide)) rest

theorem unquoted_quoted (letters : List Letter) {rest : Text} (h : colonSplit rest = none) :
    unquoted (quoted letters ++ rest) = quoted letters ++ unquoted rest := by
  rw [quoted, enclosed_append, enclosed_append]
  exact unquoted_string (stringEnd_chars letters rest) h

/-- A key is rewritten. -/
theorem unquoted_keyText (k : Key) (rest : Text) :
    unquoted (k.text ++ rest) = k.bare ++ unquoted rest := by
  simp only [Key.text, Key.bare, quoted, enclosed_append, List.append_assoc, List.cons_append,
    List.nil_append]
  exact unquoted_key (stringEnd_chars k.name (k.gap.text ++ keyMark :: rest)) (colonSplit_key k.gap rest)

/-- Text between brackets is rewritten on its own, with the closing bracket behind it. -/
theorem unquoted_enclosed {opener closer : CodePoint} {t u : Text} (hopener : opener ≠ stringMark)
    (hcloser : closer ≠ stringMark) {rest : Text}
    (h : unquoted (t ++ closer :: rest) = u ++ unquoted (closer :: rest)) :
    unquoted (enclosed opener closer t ++ rest) = enclosed opener closer u ++ unquoted rest := by
  rw [enclosed_append, enclosed_append, unquoted_cons hopener, h, unquoted_cons hcloser]

theorem colonSplit_brace (rest : Text) : colonSplit (.char '\x7d' :: rest) = none :=
  colonSplit_none (by decide) (by decide) rest

theorem colonSplit_bracket (rest : Text) : colonSplit (.char ']' :: rest) = none :=
  colonSplit_none (by decide) (by decide) rest

theorem colonSplit_comma (rest : Text) : colonSplit (comma :: rest) = none :=
  colonSplit_none (by decide) (by decide) rest

/-- A comma with white space behind it is copied. -/
theorem unquoted_comma (gap : Gap) (rest : Text) :
    unquoted (comma :: (gap.text ++ rest)) = comma :: (gap.text ++ unquoted rest) := by
  rw [unquoted_cons (by decide), unquoted_quiet gap.quiet]

/-! ## Values -/

/-- A key is rewritten from one way of writing it to another one, whatever stands behind it. -/
def Rewrites (write write' : Key → Text) (k : Key) : Prop :=
  ∀ rest, unquoted (write k ++ rest) = write' k ++ unquoted rest

section

variable {write write' : Key → Text}

mutual

/-- The keys of a value are rewritten, and nothing else, whatever stands behind it but a colon. -/
theorem Tree.unquoted_textWith (value : Tree) (hkeys : ∀ k ∈ value.keys, Rewrites write write' k)
    {rest : Text} (h : colonSplit rest = none) :
    unquoted (value.textWith write ++ rest) = value.textWith write' ++ unquoted rest := by
  cases value with
  | word w => exact unquoted_quiet w.quiet rest
  | number n => exact unquoted_quiet n.quiet rest
  | string letters => exact unquoted_quoted letters h
  | emptyObject gap =>
      exact unquoted_enclosed (by decide) (by decide) (unquoted_quiet gap.quiet _)
  | object gap members =>
      -- Behind the members stands a brace, which is no colon.
      refine unquoted_enclosed (by decide) (by decide) ?_
      rw [List.append_assoc, unquoted_quiet gap.quiet,
        members.unquoted_textWith hkeys (colonSplit_brace rest), List.append_assoc]
  | emptyArray gap =>
      exact unquoted_enclosed (by decide) (by decide) (unquoted_quiet gap.quiet _)
  | array gap items =>
      refine unquoted_enclosed (by decide) (by decide) ?_
      rw [List.append_assoc, unquoted_quiet gap.quiet,
        items.unquoted_textWith hkeys (colonSplit_bracket rest), List.append_assoc]

theorem Member.unquoted_textWith (m : Member) (hkeys : ∀ k ∈ m.keys, Rewrites write write' k)
    {rest : Text} (h : colonSplit rest = none) :
    unquoted (m.textWith write ++ rest) = m.textWith write' ++ unquoted rest := by
  cases m with
  | mk key before value after =>
      rw [Member.keys, List.forall_mem_cons] at hkeys
      simp only [Member.textWith, List.append_assoc]
      -- The colon belongs to the key, so what stands behind the value is no colon again.
      rw [hkeys.1, unquoted_quiet before.quiet,
        value.unquoted_textWith hkeys.2 (colonSplit_after after h), unquoted_quiet after.quiet]

theorem Members.unquoted_textWith (members : Members)
    (hkeys : ∀ k ∈ members.keys, Rewrites write write' k) {rest : Text} (h : colonSplit rest = none) :
    unquoted (members.textWith write ++ rest) = members.textWith write' ++ unquoted rest := by
  cases members with
  | last m => exact m.unquoted_textWith hkeys h
  | next m gap others =>
      rw [Members.keys, List.forall_mem_append] at hkeys
      simp only [Members.textWith, List.append_assoc, List.cons_append]
      rw [m.unquoted_textWith hkeys.1 (colonSplit_comma _), unquoted_comma,
        others.unquoted_textWith hkeys.2 h]

theorem Items.unquoted_textWith (items : Items) (hkeys : ∀ k ∈ items.keys, Rewrites write write' k)
    {rest : Text} (h : colonSplit rest = none) :
    unquoted (items.textWith write ++ rest) = items.textWith write' ++ unquoted rest := by
  cases items with
  | last value after =>
      simp only [Items.textWith, List.append_assoc]
      rw [value.unquoted_textWith hkeys (colonSplit_after after h), unquoted_quiet after.quiet]
  | next value after gap others =>
      rw [Items.keys, List.forall_mem_append] at hkeys
      simp only [Items.textWith, List.append_assoc, List.cons_append]
      rw [value.unquoted_textWith hkeys.1 (colonSplit_after after (colonSplit_comma _)),
        unquoted_quiet after.quiet, unquoted_comma, others.unquoted_textWith hkeys.2 h]

end

/-- The keys of a document are rewritten, and nothing else. -/
theorem Document.unquoted_textWith (d : Document) (hkeys : ∀ k ∈ d.keys, Rewrites write write' k) :
    unquoted (d.textWith write) = d.textWith write' := by
  -- Behind the value of a document there is white space and the end of the text.
  have hend : colonSplit (d.after.text ++ []) = none := colonSplit_after d.after rfl
  have hafter : unquoted d.after.text = d.after.text := by
    have h := unquoted_quiet d.after.quiet []
    rwa [unquoted_nil, List.append_nil] at h
  rw [List.append_nil] at hend
  simp only [Document.textWith, List.append_assoc]
  rw [unquoted_quiet d.before.quiet, d.value.unquoted_textWith hkeys hend, hafter]

end

/-- The text of a document is rewritten to the document with bare keys. -/
theorem Document.unquoted_text (d : Document) : unquoted d.text = d.bare :=
  d.unquoted_textWith fun k _ => unquoted_keyText k

/-- In the text of a document the template writes every key bare, together with the white space before
    its colon, and keeps everything else in its place. Documents are all that is accepted as JSON. -/
theorem rewriteKeys_document :
    (∀ d : Document, rewriteKeys "\x7b0\x7d:" d.text = .ok d.bare) ∧
      ∀ (limit : Option Nat) (t : Text) (v : Value), read limit t = .ok v →
        ∃ d : Document, d.text = t := by
  refine ⟨fun d => ?_, fun limit t v h => read_sound h⟩
  rw [← d.unquoted_text]
  exact rewriteKeys_javaScript d.text

/-- A text with strings that look like keys, and a key that looks like the end of a string. -/
def nested : Text :=
  "[\x7b\"a\\\" \" : \"b\\\\\", \"c\" :[\":\\\"\", null, -0.5e1 ]\x7d , \"d\" ] "

/-- The text with bare keys. -/
def nestedBare : Text :=
  "[\x7ba\\\": \"b\\\\\", c:[\":\\\"\", null, -0.5e1 ]\x7d , \"d\" ] "

theorem rewriteKeys_document_nested :
    ∃ d : Document, d.text = nested ∧ d.bare = nestedBare ∧
      rewriteKeys "\x7b0\x7d:" nested = .ok nestedBare := by
  have hread : ∃ v, (read none nested).toOption = some v :=
    Option.isSome_iff_exists.mp (by decide +kernel)
  rcases hread with ⟨v, hv⟩
  rcases rewriteKeys_document.2 none nested v (eq_ok_of_toOption hv) with ⟨d, hd⟩
  have hkeys := rewriteKeys_document.1 d
  have hnested : rewriteKeys "\x7b0\x7d:" nested = .ok nestedBare :=
    eq_ok_of_toOption (by decide +kernel)
  rw [hd, hnested] at hkeys
  exact ⟨d, hd, (Except.ok.inj hkeys).symm, hnested⟩

end Json

end CallSnippets
