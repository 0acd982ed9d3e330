import CallSnippets.Literal.Declaration
import CallSnippets.Proofs.Literal.Document
import CallSnippets.Proofs.Literal.Name

/-!
# What a declared literal stands for

Keys are written bare whatever they hold, so whether the literal that is declared for a body is one that
JavaScript reads, and reads as the value of the body, depends on the keys alone. The values in it are
written as they were, and JavaScript reads strings, numbers and words as JSON does. The one difference
is in the names of properties. If every key is a property name of itself, as it stands between its marks
and without the blanks at its end, nothing is lost.

A key that is no name spoils the whole literal. A key that ends in a blank is none of these either,
since it loses the blank, and so two keys may become one.

## Main definitions

* `readLiteral`: Reads an object literal.
* `Key.NamesItself`: What is written for a key names the key as a property.

## Theorems

* `readLiteral_bare`: A document is read as its value from the text with bare keys.
* `declareBody_document`: What is declared for the text of a document.
* `declareBody_meaning`: The literal that is declared for a body stands for the value of the body.
* `declareBody_misnamed`: What is declared for keys that do not name themselves.
-/

namespace CallSnippets

namespace Json

/-- Reads an object literal: JSON with bare names, and with numbers of any length. -/
def readLiteral (alphabet : Alphabet) (t : Text) : Except Failure Value :=
  readBy (readProperty alphabet) none t

/-- What is written for a key names the key as a property. -/
def Key.NamesItself (alphabet : Alphabet) (k : Key) : Prop :=
  propertyName? alphabet (Text.trimEnd (chars k.name)) = some k.meaning

instance (alphabet : Alphabet) (k : Key) : Decidable (k.NamesItself alphabet) :=
  inferInstanceAs (Decidable (_ = _))

section

variable {alphabet : Alphabet}

/-- A bare key is read as what it names. -/
theorem readsKey_bare {name : Key → Text} {k : Key}
    (h : propertyName? alphabet (Text.trimEnd (chars k.name)) = some (name k)) :
    ReadsKey (readProperty alphabet) Key.bare name k := by
  constructor
  case starts =>
    rcases propertyName?_marks h with ⟨hne, hmarks⟩
    rcases List.exists_cons_of_ne_nil hne with ⟨c, more, htext⟩
    refine ⟨c, more ++ [keyMark], by rw [Key.bare, htext]; rfl, ?_⟩
    exact isEnd_of_isNameMark (hmarks c (by rw [htext]; exact List.mem_cons_self ..))
  case found =>
    intro rest
    refine ⟨keyMark :: rest, ?_, skipSpace_cons (by decide) rest⟩
    rw [Key.bare, List.append_assoc]
    exact readProperty_append h rest

/-- A document is read as its value from the text with bare keys, if all keys name themselves. -/
theorem readLiteral_bare (d : Document) (hkeys : ∀ k ∈ d.keys, k.NamesItself alphabet) :
    readLiteral alphabet d.bare = read none d.text := by
  rw [d.read_text]
  exact d.readBy_textWith fun k hk => readsKey_bare (hkeys k hk)

/-! ## Declarations -/

theorem trim_blank {t : Text} (ht : Text.allBlank t = true) : Text.trim t = [] := by
  have hstart : Text.trimStart t = [] := by
    rw [Text.trimStart, List.dropWhile_eq_nil_iff]
    exact List.all_eq_true.mp ht
  rw [Text.trim, hstart]
  rfl

/-- The text of a document is more than blanks. -/
theorem allBlank_of_document {d : Document} {body : Text} (hbody : Text.trim body = d.text) :
    Text.allBlank body = false := by
  cases hblank : Text.allBlank body with
  | false => rfl
  | true =>
      have hpos := (d.value.startsValue Key.text).length_pos
      have hnil : d.text.length = 0 := by
        rw [← hbody, trim_blank hblank, List.length_nil]
      simp only [Document.text, Document.textWith, List.length_append] at hnil
      omega

/-- What is declared for the text of a document: the text with bare keys, unless a number is too long. -/
theorem declareBody_document (d : Document) {body : Text} (hbody : Text.trim body = d.text)
    (name : Text) :
    declareBody javaScript (some body) name =
      match jsonFault? d.text with
      | some fault => .error fault
      | none => .ok ("const " ++ name ++ " = " ++ d.bare ++ ";\n\n") := by
  unfold declareBody
  simp only [allBlank_of_document hbody, Bool.false_eq_true, if_false, hbody]
  cases jsonFault? d.text with
  | some fault => rfl
  | none =>
      simp only
      rw [rewriteKeys_javaScript, d.unquoted_text, mapError_ok, ok_bind, fillOrFault,
        JavaScript.fill_body, mapError_ok]

/-- The text with bare keys is declared for a document that is read. -/
theorem declareBody_of_read {d : Document} {body : Text} {v : Value}
    (hbody : Text.trim body = d.text) (name : Text) (hread : read (some digitLimit) d.text = .ok v) :
    declareBody javaScript (some body) name =
      .ok ("const " ++ name ++ " = " ++ d.bare ++ ";\n\n") := by
  have hfault : jsonFault? d.text = none := by rw [jsonFault?, hread]
  rw [declareBody_document d hbody, hfault]

end

/-- The literal that is declared for an object has the names and values of the object, if every key as
    it is written names itself. Keys that differ are written differently then. -/
theorem declareBody_meaning (alphabet : Alphabet) (name : Text) {body : Text}
    {entries : List (Value × Value)}
    (hread : read none (Text.trim body) = .ok (.map entries)) :
    (∃ d : Document, d.text = Text.trim body) ∧
      ∀ d : Document, d.text = Text.trim body → (∀ k ∈ d.keys, k.NamesItself alphabet) →
        readLiteral alphabet d.bare = .ok (.map entries) ∧
          (∀ k ∈ d.keys, ∀ k' ∈ d.keys, k.meaning ≠ k'.meaning →
            propertyName? alphabet (Text.trimEnd (chars k.name)) ≠
              propertyName? alphabet (Text.trimEnd (chars k'.name))) ∧
            declareBody javaScript (some body) name =
              match jsonFault? (Text.trim body) with
              | some fault => .error fault
              | none => .ok ("const " ++ name ++ " = " ++ d.bare ++ ";\n\n") := by
  refine ⟨read_sound hread, fun d hd hkeys => ⟨?_, ?_, ?_⟩⟩
  · rw [readLiteral_bare d hkeys, hd, hread]
  · intro k hk k' hk' hne heq
    rw [hkeys k hk, hkeys k' hk'] at heq
    exact hne (Option.some.inj heq)
  · rw [← hd]
    exact declareBody_document d hd.symm name

/-- The alphabet of identifiers that keep to the first 128 characters. -/
def plainAlphabet : Alphabet where
  start _ := false
  part _ := false

/-- A document with a key that is written with an escape, and a key that is a number. -/
def named : Document :=
  let none : Gap := .none
  let escaped : Member := .mk ⟨[.code "0061" (by decide) (by decide)], none⟩ none
    (.word ⟨"true", by decide⟩) none
  let number : Member := .mk ⟨[.plain '1' (by decide), .plain '0' (by decide)], none⟩ none
    (.string [.plain 'b' (by decide)]) none
  ⟨none, .object none (.next escaped none (.last number)), none⟩

theorem declareBody_meaning_named :
    read none named.text = .ok (.map [(.text "a", .bool true), (.text "10", .text "b")]) ∧
      (∀ k ∈ named.keys, k.NamesItself plainAlphabet) ∧
        readLiteral plainAlphabet named.bare =
          .ok (.map [(.text "a", .bool true), (.text "10", .text "b")]) ∧
          declareBody javaScript (some named.text) "x" =
            .ok "const x = \x7b\\u0061:true,10:\"b\"\x7d;\n\n" := by
  have htrim : Text.trim named.text = named.text := by decide +kernel
  have hread : read none (Text.trim named.text) =
      .ok (.map [(.text "a", .bool true), (.text "10", .text "b")]) := by
    rw [htrim, named.read_text]
    rfl
  have hkeys : ∀ k ∈ named.keys, k.NamesItself plainAlphabet := by decide +kernel
  rcases (declareBody_meaning plainAlphabet "x" hread).2 named htrim.symm hkeys
    with ⟨hliteral, _, hdeclared⟩
  refine ⟨by rw [← hread, htrim], hkeys, hliteral, ?_⟩
  have hfault : jsonFault? (Text.trim named.text) = none := by
    rw [htrim, jsonFault?, named.read_text]
    rfl
  rw [hdeclared, hfault]
  rfl

/-- A document with a key that is no name, for the sign that it starts with. -/
def annotated : Document :=
  let none : Gap := .none
  let key : Key := ⟨[.plain '@' (by decide), .plain 'i' (by decide), .plain 'd' (by decide)], none⟩
  ⟨none, .object none (.last (.mk key none (.word ⟨"true", by decide⟩) none)), none⟩

/-- A document with two keys, of which one is the other one with a blank behind it. -/
def spaced : Document :=
  let none : Gap := .none
  let space : Gap := .blank
  let digit (c : Text) (hc : ∀ d ∈ c, Text.isAsciiDigit d = true) (hne : c ≠ [])
      (hzero : c.head? = some (.char '0') → c.tail = []) : Tree :=
    .number ⟨[], by decide, ⟨⟨c, hc, hne⟩, hzero⟩, Option.none, Option.none⟩
  let first : Member := .mk ⟨[.plain 'a' (by decide)], none⟩ space
    (digit "1" (by decide) (by decide) (by decide)) none
  let second : Member := .mk ⟨[.plain 'a' (by decide), .plain ' ' (by decide)], none⟩ space
    (digit "2" (by decide) (by decide) (by decide)) none
  ⟨none, .object none (.next first space (.last second)), none⟩

/-- No name is found in front of the colon, whatever the alphabet is. -/
theorem readLiteral_annotated (alphabet : Alphabet) :
    readLiteral alphabet "\x7b@id:true\x7d" = .error (.malformed .expectedName "@id:true\x7d") := by
  have hname : readProperty alphabet "@id:true\x7d" =
      .error (.malformed .expectedName "@id:true\x7d") := by
    have hnone : propertyName? alphabet "@id" = none :=
      propertyName?_none (c := '@') (by decide) (by decide)
    rw [readProperty, show (("@id:true\x7d" : Text).takeWhile fun c => !endsName c) = "@id" by decide,
      hnone]
  have hvalue : ∀ fuel, readValueBy (readProperty alphabet) none (fuel + 2) "\x7b@id:true\x7d" =
      .error (.malformed .expectedName "@id:true\x7d") := by
    intro fuel
    have hstart : StartsValue ("@id:true" : Text) := ⟨'@', "id:true", rfl, by decide⟩
    have hobject : readValueBy (readProperty alphabet) none (fuel + 2) _ = _ :=
      readValueBy_object (fuel + 1) ⟨[], by decide⟩ hstart []
    unfold readMembersBy readMember at hobject
    have htext : (("@id:true" : Text) ++ .char '\x7d' :: []) = ("@id:true\x7d" : Text) := rfl
    rw [htext, hname] at hobject
    exact hobject
  rw [readLiteral, readBy, if_neg (by decide),
    show skipSpace "\x7b@id:true\x7d" = "\x7b@id:true\x7d" by decide, hvalue]
  rfl

/-- What is declared for keys that do not name themselves: text that is no literal, or a literal in
    which two keys have become one property, so that one of the values is lost. -/
theorem declareBody_misnamed :
    (read none "\x7b\"@id\":true\x7d" = .ok (.map [(.text "@id", .bool true)]) ∧
      declareBody javaScript (some "\x7b\"@id\":true\x7d") "x" =
        .ok "const x = \x7b@id:true\x7d;\n\n" ∧
        ∀ alphabet, readLiteral alphabet "\x7b@id:true\x7d" =
          .error (.malformed .expectedName "@id:true\x7d")) ∧
      read none "\x7b\"a\": 1, \"a \": 2\x7d" =
        .ok (.map [(.text "a", .int 1), (.text "a ", .int 2)]) ∧
        declareBody javaScript (some "\x7b\"a\": 1, \"a \": 2\x7d") "x" =
          .ok "const x = \x7ba: 1, a: 2\x7d;\n\n" ∧
          readLiteral plainAlphabet "\x7ba: 1, a: 2\x7d" = .ok (.map [(.text "a", .int 2)]) := by
  refine ⟨⟨?_, ?_, readLiteral_annotated⟩, ?_, ?_, ?_⟩
  · exact annotated.read_text none
  · exact declareBody_of_read (d := annotated) (by decide +kernel) "x" (annotated.read_text _)
  · exact spaced.read_text none
  · exact declareBody_of_read (d := spaced) (by decide +kernel) "x" (spaced.read_text _)
  · -- Each key is read as what is left of it, which is the same for both.
    have hkeys : ∀ k ∈ spaced.keys, propertyName? plainAlphabet (Text.trimEnd (chars k.name)) =
        some (Text.trimEnd (chars k.name)) := by decide +kernel
    have h : readBy (readProperty plainAlphabet) none (spaced.textWith Key.bare) = _ :=
      spaced.readBy_textWith fun k hk => readsKey_bare (hkeys k hk)
    exact h

end Json

end CallSnippets
