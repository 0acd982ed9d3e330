import CallSnippets.Proofs.Literal.Document
import CallSnippets.Proofs.Literal.Name

/-!
# Keys with marks again

An object literal with bare keys can be turned back into JSON, as long as the keys are identifiers: go
through the text, copy strings as they are, and put marks around every identifier between strings that
a colon follows directly. This is not the inverse of taking the marks away, since the white space before
the colons is gone. But the text that comes back is JSON, and it is read as the same value.

The walk knows nothing of values. It has to see strings where the document has them, and it must not
take a word or the end of a number for a key. The words and numbers of a document have a colon behind
them nowhere: a comma, a bracket, white space or the end of the text stands there.

## Main definitions

* `Copying`, `requoteFrom`, `requote`: The walk that puts marks around keys.
* `Key.tight`: The key as it is written with its colon directly behind its marks.

## Theorems

* `requote_loose`: Words and numbers are copied.
* `requote_bareKey`: A bare key gets its marks back.
* `Tree.requote_textWith`: Every key of a value gets its marks back, and nothing else changes.
* `requote_rewriteKeys`: A document with bare keys is turned back into JSON with the same value.
-/

namespace CallSnippets

/-- Where the walk is. -/
inductive Copying where
  /-- Between strings and identifiers. -/
  | between
  /-- In an identifier, by what there is of it so far. -/
  | identifier (t : Text)
  /-- In a string. -/
  | string
  /-- In a string behind a backslash. -/
  | escaped
  deriving DecidableEq, Repr

namespace Copying

/-- Where the walk is behind a character. -/
def next : Copying → CodePoint → Copying
  | between, c =>
    if c = stringMark then string else if isIdentifierStart c then identifier [c] else between
  | identifier t, c =>
    if c = stringMark then string else if isIdentifierPart c then identifier (t ++ [c]) else between
  | string, c =>
    if c = stringMark then between else if c = Json.escapeMark then escaped else string
  | escaped, _ => string

/-- What is written at a character: an identifier is held back until it is known what follows it. -/
def written : Copying → CodePoint → Text
  | between, c => if isIdentifierStart c then [] else [c]
  | identifier t, c =>
    if isIdentifierPart c then []
    else if c = keyMark then enclosed stringMark stringMark t ++ [c]
    else t ++ [c]
  | string, c => [c]
  | escaped, c => [c]

/-- What has been held back. -/
def pending : Copying → Text
  | identifier t => t
  | _ => []

end Copying

/-- The rest of a text with marks around its keys. -/
def requoteFrom (place : Copying) : Text → Text
  | [] => place.pending
  | c :: rest => place.written c ++ requoteFrom (place.next c) rest

/-- A text with marks around its keys: every identifier that a colon follows. -/
def requote (t : Text) : Text :=
  requoteFrom .between t

namespace Json

/-- The key as it is written between marks with the colon directly behind them. -/
def Key.tight (k : Key) : Text :=
  quoted k.name ++ [keyMark]

/-! ## Strings -/

theorem requoteFrom_string_append {t : Text} (h : ∀ c ∈ t, c ≠ stringMark ∧ c ≠ escapeMark)
    (rest : Text) : requoteFrom .string (t ++ rest) = t ++ requoteFrom .string rest := by
  induction t with
  | nil => rfl
  | cons c more ih =>
      rcases h c (List.mem_cons_self ..) with ⟨hmark, hback⟩
      rw [List.cons_append, requoteFrom, Copying.next, if_neg hmark, if_neg hback, Copying.written,
        ih fun d hd => h d (List.mem_cons_of_mem c hd)]
      rfl

theorem requoteFrom_string_escape (c : CodePoint) (rest : Text) :
    requoteFrom .string (escapeMark :: c :: rest) = escapeMark :: c :: requoteFrom .string rest := rfl

theorem requoteFrom_letter (letter : Letter) (rest : Text) :
    requoteFrom .string (letter.text ++ rest) = letter.text ++ requoteFrom .string rest := by
  cases letter with
  | plain c h =>
      simp only [isPlain, Bool.and_eq_true, decide_eq_true_eq] at h
      refine requoteFrom_string_append (t := [c]) (fun d hd => ?_) rest
      rw [List.mem_singleton.mp hd]
      exact ⟨h.1.1, h.1.2⟩
  | escape c _ => exact requoteFrom_string_escape c rest
  | code digits _ hex =>
      have hdigits : ∀ c ∈ digits, c ≠ stringMark ∧ c ≠ escapeMark := by
        intro c hc
        rcases hex_not_special (hex c hc) with ⟨hinert, hback⟩
        exact ⟨ne_of_isInert hinert (by decide), hback⟩
      rw [Letter.text, List.cons_append, List.cons_append, requoteFrom_string_escape,
        requoteFrom_string_append hdigits]
      rfl

/-- A string is copied, whatever its letters look like. -/
theorem requote_quoted (letters : List Letter) (rest : Text) :
    requote (quoted letters ++ rest) = quoted letters ++ requote rest := by
  have hletters : ∀ more : List Letter, requoteFrom .string (chars more ++ stringMark :: rest) =
      chars more ++ stringMark :: requote rest := by
    intro more
    induction more with
    | nil => rfl
    | cons letter others ih =>
        rw [chars_cons, List.append_assoc, requoteFrom_letter, ih, List.append_assoc]
  rw [quoted, enclosed_append, enclosed_append, ← hletters letters]
  rfl

/-! ## Steps between strings -/

theorem ne_mark_of_part {c : CodePoint} (hpart : isIdentifierPart c = true) : c ≠ stringMark := by
  rintro rfl
  exact absurd hpart (by decide)

theorem part_of_start {c : CodePoint} (hstart : isIdentifierStart c = true) :
    isIdentifierPart c = true := by
  rw [isIdentifierPart, hstart, Bool.true_or]

theorem requote_other {c : CodePoint} (hmark : c ≠ stringMark) (hstart : isIdentifierStart c = false)
    (rest : Text) : requote (c :: rest) = c :: requote rest := by
  simp only [requote, requoteFrom, Copying.next, Copying.written, if_neg hmark, hstart,
    Bool.false_eq_true, if_false, List.cons_append, List.nil_append]

theorem requote_start {c : CodePoint} (hstart : isIdentifierStart c = true) (rest : Text) :
    requote (c :: rest) = requoteFrom (.identifier [c]) rest := by
  have hmark := ne_mark_of_part (part_of_start hstart)
  simp only [requote, requoteFrom, Copying.next, Copying.written, if_neg hmark, hstart, if_true,
    List.nil_append]

theorem requoteFrom_part {c : CodePoint} (hpart : isIdentifierPart c = true) (held rest : Text) :
    requoteFrom (.identifier held) (c :: rest) = requoteFrom (.identifier (held ++ [c])) rest := by
  simp only [requoteFrom, Copying.next, Copying.written, if_neg (ne_mark_of_part hpart), hpart,
    if_true, List.nil_append]

theorem requoteFrom_other {c : CodePoint} (hmark : c ≠ stringMark) (hcolon : c ≠ keyMark)
    (hpart : isIdentifierPart c = false) (held rest : Text) :
    requoteFrom (.identifier held) (c :: rest) = held ++ c :: requote rest := by
  simp only [requote, requoteFrom, Copying.next, Copying.written, if_neg hmark, if_neg hcolon, hpart,
    Bool.false_eq_true, if_false, List.append_assoc, List.singleton_append]

theorem requoteFrom_colon (held rest : Text) :
    requoteFrom (.identifier held) (keyMark :: rest) =
      enclosed stringMark stringMark held ++ keyMark :: requote rest := by
  have hpart : isIdentifierPart keyMark = false := by decide
  simp only [requote, requoteFrom, Copying.next, Copying.written, hpart, Bool.false_eq_true, if_false,
    if_true, if_neg (show keyMark ≠ stringMark by decide), List.append_assoc, List.singleton_append]

/-! ## Text between strings -/

theorem not_part_of_isEnd {c : CodePoint} (hc : isEnd c = true) :
    c ≠ stringMark ∧ c ≠ keyMark ∧ isIdentifierStart c = false ∧ isIdentifierPart c = false := by
  have hall : ∀ d ∈ (" \t\n\r,\x7d]" : Text), d ≠ stringMark ∧ d ≠ keyMark ∧
      isIdentifierStart d = false ∧ isIdentifierPart d = false := by decide
  exact hall c (isEnd_cases hc)

/-- What may stand behind a value is copied. -/
theorem requote_end {c : CodePoint} (hc : isEnd c = true) (rest : Text) :
    requote (c :: rest) = c :: requote rest := by
  rcases not_part_of_isEnd hc with ⟨hmark, _, hstart, _⟩
  exact requote_other hmark hstart rest

theorem requote_gap (gap : Gap) (rest : Text) :
    requote (gap.text ++ rest) = gap.text ++ requote rest := by
  cases gap with
  | mk text hspace =>
      induction text with
      | nil => rfl
      | cons c more ih =>
          have hend : isEnd c = true := by
            simp only [isEnd, hspace c (List.mem_cons_self ..), Bool.true_or]
          have hmore := ih fun d hd => hspace d (List.mem_cons_of_mem c hd)
          simp only [List.cons_append] at hmore ⊢
          rw [requote_end hend, hmore]

/-- An identifier that no colon follows comes out as it was held back. -/
theorem requoteFrom_ends (held : Text) {rest : Text} (hrest : Ends rest) :
    requoteFrom (.identifier held) rest = held ++ requote rest := by
  cases rest with
  | nil => exact (List.append_nil held).symm
  | cons c more =>
      have hc := hrest c rfl
      rcases not_part_of_isEnd hc with ⟨hmark, hcolon, _, hpart⟩
      rw [requoteFrom_other hmark hcolon hpart, requote_end hc]

/-- Words and numbers are copied: there is no mark and no colon in them, and none behind them. -/
theorem requote_loose {t : Text} (ht : ∀ c ∈ t, c ≠ stringMark ∧ c ≠ keyMark) {rest : Text}
    (hrest : Ends rest) : requote (t ++ rest) = t ++ requote rest := by
  -- In the middle of the text an identifier may be held back, so both cases are shown together.
  suffices hboth : requote (t ++ rest) = t ++ requote rest ∧
      ∀ held, requoteFrom (.identifier held) (t ++ rest) = held ++ (t ++ requote rest) from hboth.1
  induction t with
  | nil => exact ⟨rfl, fun held => requoteFrom_ends held hrest⟩
  | cons c more ih =>
      rcases ht c (List.mem_cons_self ..) with ⟨hmark, hcolon⟩
      rcases ih fun d hd => ht d (List.mem_cons_of_mem c hd) with ⟨hbetween, hheld⟩
      refine ⟨?_, fun held => ?_⟩
      · cases hstart : isIdentifierStart c with
        | false => rw [List.cons_append, requote_other hmark hstart, hbetween, List.cons_append]
        | true => rw [List.cons_append, requote_start hstart, hheld, List.singleton_append,
            List.cons_append]
      · cases hpart : isIdentifierPart c with
        | false =>
            rw [List.cons_append, requoteFrom_other hmark hcolon hpart, hbetween, List.cons_append]
        | true =>
            rw [List.cons_append, requoteFrom_part hpart, hheld, List.append_assoc,
              List.singleton_append, List.cons_append]

/-! ## Keys -/

/-- An identifier gets marks if a colon follows it. -/
theorem requote_identifier {t : Text} (ht : isIdentifier t = true) (rest : Text) :
    requote (t ++ keyMark :: rest) =
      enclosed stringMark stringMark t ++ keyMark :: requote rest := by
  cases t with
  | nil => exact absurd ht Bool.false_ne_true
  | cons c more =>
      simp only [isIdentifier, Bool.and_eq_true, List.all_eq_true] at ht
      -- All of the identifier is held back until the colon.
      have hmore : ∀ held, requoteFrom (.identifier held) (more ++ keyMark :: rest) =
          requoteFrom (.identifier (held ++ more)) (keyMark :: rest) := by
        have hparts := ht.2
        clear ht
        induction more with
        | nil => simp only [List.nil_append, List.append_nil, implies_true]
        | cons d others ih =>
            intro held
            rw [List.cons_append, requoteFrom_part (hparts d (List.mem_cons_self ..)),
              ih fun e he => hparts e (List.mem_cons_of_mem d he), List.append_assoc,
              List.singleton_append]
      rw [List.cons_append, requote_start ht.1, hmore, requoteFrom_colon, List.singleton_append]

theorem not_blank_of_part {c : CodePoint} (hpart : isIdentifierPart c = true) :
    Text.isBlank c = false := by
  -- Blanks lie below, between and above the ranges of identifiers, never in them.
  have hrange : (48 ≤ c.toNat ∧ c.toNat ≤ 57) ∨ (65 ≤ c.toNat ∧ c.toNat ≤ 90) ∨ c.toNat = 95 ∨
      c.toNat = 36 ∨ (97 ≤ c.toNat ∧ c.toNat ≤ 122) := by
    simp only [isIdentifierPart, isIdentifierStart, Text.isAsciiDigit, Bool.or_eq_true,
      Bool.and_eq_true, decide_eq_true_eq] at hpart
    rcases hpart with (((h | h) | rfl) | rfl) | h
    · exact .inr (.inr (.inr (.inr h)))
    · exact .inr (.inl h)
    · exact .inr (.inr (.inl rfl))
    · exact .inr (.inr (.inr (.inl rfl)))
    · exact .inl h
  simp only [Text.isBlank, Bool.or_eq_false_iff, Bool.and_eq_false_iff, decide_eq_false_iff_not,
    beq_eq_false_iff_ne]
  omega

/-- An identifier has no blanks at its end. -/
theorem trimEnd_identifier {t : Text} (ht : isIdentifier t = true) : Text.trimEnd t = t := by
  have hparts : ∀ c ∈ t.reverse, Text.isBlank c = false := by
    intro c hc
    rw [List.mem_reverse] at hc
    cases t with
    | nil => exact absurd hc List.not_mem_nil
    | cons d more =>
        simp only [isIdentifier, Bool.and_eq_true, List.all_eq_true] at ht
        rcases List.mem_cons.mp hc with rfl | hc
        · exact not_blank_of_part (part_of_start ht.1)
        · exact not_blank_of_part (ht.2 c hc)
  rw [Text.trimEnd]
  cases hreverse : t.reverse with
  | nil => rw [List.dropWhile_nil, ← hreverse, List.reverse_reverse]
  | cons c more =>
      have hc := hparts c (by rw [hreverse]; exact List.mem_cons_self ..)
      rw [List.dropWhile_cons, hc, if_neg Bool.false_ne_true, ← hreverse, List.reverse_reverse]

/-- A bare key gets its marks back. -/
theorem requote_bareKey {k : Key} (hk : isIdentifier (chars k.name) = true) (rest : Text) :
    requote (k.bare ++ rest) = k.tight ++ requote rest := by
  simp only [Key.bare, Key.tight, trimEnd_identifier hk, List.append_assoc, List.singleton_append]
  exact requote_identifier hk rest

/-! ## Values -/

theorem Number.loose (n : Number) : ∀ c ∈ n.text, c ≠ stringMark ∧ c ≠ keyMark :=
  n.forall_mem (fun _ hc => ⟨ne_of_isDigit hc (by decide), ne_of_isDigit hc (by decide)⟩) (by decide)

theorem Word.loose (w : Word) : ∀ c ∈ w.text, c ≠ stringMark ∧ c ≠ keyMark := by
  have hwords : ∀ t ∈ words.map Prod.fst, ∀ c ∈ t, c ≠ stringMark ∧ c ≠ keyMark := by decide
  exact hwords w.text w.known

/-- Text between brackets gets its marks back on its own, with the closing bracket behind it. -/
theorem requote_enclosed {opener closer : CodePoint} {t u rest : Text} (hopener : opener ≠ stringMark)
    (hstart : isIdentifierStart opener = false) (hcloser : isEnd closer = true)
    (h : requote (t ++ closer :: rest) = u ++ requote (closer :: rest)) :
    requote (enclosed opener closer t ++ rest) = enclosed opener closer u ++ requote rest := by
  rw [enclosed_append, enclosed_append, requote_other hopener hstart, h, requote_end hcloser]

mutual

/-- Every key of a value gets its marks back, and nothing else changes. -/
theorem Tree.requote_textWith (value : Tree)
    (hkeys : ∀ k ∈ value.keys, isIdentifier (chars k.name) = true) {rest : Text} (hrest : Ends rest) :
    requote (value.textWith Key.bare ++ rest) = value.textWith Key.tight ++ requote rest := by
  cases value with
  | word w => exact requote_loose w.loose hrest
  | number n => exact requote_loose n.loose hrest
  | string letters => exact requote_quoted letters rest
  | emptyObject gap =>
      exact requote_enclosed (by decide) (by decide) (by decide) (requote_gap gap _)
  | object gap members =>
      refine requote_enclosed (by decide) (by decide) (by decide) ?_
      rw [List.append_assoc, requote_gap, members.requote_textWith hkeys (ends_cons (by decide) rest),
        List.append_assoc]
  | emptyArray gap =>
      exact requote_enclosed (by decide) (by decide) (by decide) (requote_gap gap _)
  | array gap items =>
      refine requote_enclosed (by decide) (by decide) (by decide) ?_
      rw [List.append_assoc, requote_gap, items.requote_textWith hkeys (ends_cons (by decide) rest),
        List.append_assoc]

theorem Member.requote_textWith (m : Member)
    (hkeys : ∀ k ∈ m.keys, isIdentifier (chars k.name) = true) {rest : Text} (hrest : Ends rest) :
    requote (m.textWith Key.bare ++ rest) = m.textWith Key.tight ++ requote rest := by
  cases m with
  | mk key before value after =>
      rw [Member.keys, List.forall_mem_cons] at hkeys
      simp only [Member.textWith, List.append_assoc]
      rw [requote_bareKey hkeys.1, requote_gap, value.requote_textWith hkeys.2 (ends_gap after hrest),
        requote_gap]

theorem Members.requote_textWith (members : Members)
    (hkeys : ∀ k ∈ members.keys, isIdentifier (chars k.name) = true) {rest : Text}
    (hrest : Ends rest) :
    requote (members.textWith Key.bare ++ rest) = members.textWith Key.tight ++ requote rest := by
  cases members with
  | last m => exact m.requote_textWith hkeys hrest
  | next m gap others =>
      rw [Members.keys, List.forall_mem_append] at hkeys
      simp only [Members.textWith, List.append_assoc, List.cons_append]
      rw [m.requote_textWith hkeys.1 (ends_cons (by decide) _), requote_end (by decide), requote_gap,
        others.requote_textWith hkeys.2 hrest]

theorem Items.requote_textWith (items : Items)
    (hkeys : ∀ k ∈ items.keys, isIdentifier (chars k.name) = true) {rest : Text} (hrest : Ends rest) :
    requote (items.textWith Key.bare ++ rest) = items.textWith Key.tight ++ requote rest := by
  cases items with
  | last value after =>
      simp only [Items.textWith, List.append_assoc]
      rw [value.requote_textWith hkeys (ends_gap after hrest), requote_gap]
  | next value after gap others =>
      rw [Items.keys, List.forall_mem_append] at hkeys
      simp only [Items.textWith, List.append_assoc, List.cons_append]
      rw [value.requote_textWith hkeys.1 (ends_gap after (ends_cons (by decide) _)), requote_gap,
        requote_end (by decide), requote_gap, others.requote_textWith hkeys.2 hrest]

end

/-! ## Documents -/

theorem requote_bare (d : Document) (hkeys : ∀ k ∈ d.keys, isIdentifier (chars k.name) = true) :
    requote d.bare = d.textWith Key.tight := by
  have hafter : requote d.after.text = d.after.text := by
    have h := requote_gap d.after []
    rwa [show requote [] = [] from rfl, List.append_nil] at h
  simp only [Document.bare, Document.textWith, List.append_assoc]
  rw [requote_gap, d.value.requote_textWith hkeys d.after.ends, hafter]

/-- A key with its colon directly behind its marks is a key without white space. -/
theorem readsKey_tight (k : Key) : ReadsKey quotedName Key.tight Key.meaning k := by
  have htext : (Key.mk k.name ⟨[], fun _ h => absurd h List.not_mem_nil⟩).text = k.tight := by
    rw [Key.text, List.append_nil]
    rfl
  have hkey := readsKey_quotedName ⟨k.name, ⟨[], fun _ h => absurd h List.not_mem_nil⟩⟩
  exact ⟨by rw [← htext]; exact hkey.starts, by rw [← htext]; exact hkey.found⟩

/-- A document whose keys are identifiers is turned back into JSON when its keys have been written
    bare, and it is read as the same value. Documents are all that is accepted as JSON. -/
theorem requote_rewriteKeys :
    (∀ d : Document, (∀ k ∈ d.keys, isIdentifier (chars k.name) = true) →
      ∃ literal, rewriteKeys "\x7b0\x7d:" d.text = .ok literal ∧
        (∃ v, read none d.text = .ok v ∧ read none (requote literal) = .ok v) ∧
          ∀ limit, read limit (requote literal) = read limit d.text) ∧
      ∀ (limit : Option Nat) (t : Text) (v : Value), read limit t = .ok v →
        ∃ d : Document, d.text = t := by
  refine ⟨fun d hkeys => ?_, fun limit t v h => read_sound h⟩
  have hread : ∀ limit, read limit (requote d.bare) = read limit d.text := by
    intro limit
    rw [requote_bare d hkeys, ← readBy_quotedName, d.read_text]
    exact d.readBy_textWith fun k _ => readsKey_tight k
  rcases d.read_none with ⟨v, hv⟩
  refine ⟨d.bare, ?_, ⟨v, hv, by rw [hread, hv]⟩, hread⟩
  rw [← d.unquoted_text]
  exact rewriteKeys_javaScript d.text

/-- A document with a string that looks like a key, and with a number whose end does. -/
def identified : Document :=
  let none : Gap := .none
  let space : Gap := .blank
  let string : List Letter := .mark :: plainLetters "b:" (by decide)
  let number : Number := ⟨"-", by decide, .ofDigit '1' (by decide), Option.none,
    some ⟨'e', by decide, [], by decide, (Whole.ofDigit '5' (by decide)).toDigits⟩⟩
  let items : Items := .next (.string string) none space (.last (.number number) none)
  let first : Member := .mk ⟨plainLetters "a" (by decide), space⟩ space (.array none items) none
  let second : Member := .mk ⟨plainLetters "$0" (by decide), none⟩ none
    (.word ⟨"null", by decide⟩) none
  ⟨none, .object none (.next first space (.last second)), none⟩

theorem requote_rewriteKeys_identified :
    identified.text = "\x7b\"a\" : [\"\\\"b:\", -1e5], \"$0\":null\x7d" ∧
      (∀ k ∈ identified.keys, isIdentifier (chars k.name) = true) ∧
        ∃ literal v, rewriteKeys "\x7b0\x7d:" identified.text = .ok literal ∧
          read none identified.text = .ok v ∧ read none (requote literal) = .ok v := by
  have hkeys : ∀ k ∈ identified.keys, isIdentifier (chars k.name) = true := by decide
  rcases requote_rewriteKeys.1 identified hkeys with ⟨literal, hliteral, ⟨v, hv, hback⟩, _⟩
  exact ⟨rfl, hkeys, literal, v, hliteral, hv, hback⟩

end Json

end CallSnippets
