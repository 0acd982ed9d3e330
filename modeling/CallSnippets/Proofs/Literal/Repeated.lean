import CallSnippets.Proofs.Literal.Document

/-!
# Keys that are rewritten twice

A document with bare keys is no JSON any more, but its keys can be looked for again. Nothing is found then
that was not there before: the strings that are left are the values, and behind a value there is no colon, for
the key behind the next comma may well start with one but the comma stands in between. So rewriting the keys a
second time changes nothing.

It has to be asked for this that no key has a mark among its letters. Such a mark stood behind a backslash
inside of a string, and once the marks of the key are gone it starts a string of its own. The string ends at
the next mark, which was to start another one, and from there on what was outside of strings is inside.

## Theorems

* `mark_mem_chars`: A mark in the text of a string is one of its letters.
* `Document.unquoted_bare`: A document with bare keys stays what it is.
* `rewriteKeys_repeated`: Rewriting the keys of a document twice.
-/

namespace CallSnippets

namespace Json

/-- A mark in the text of a string is one of its letters. -/
theorem mark_mem_chars {letters : List Letter} : stringMark ∈ chars letters ↔ Letter.mark ∈ letters := by
  constructor
  · intro h
    rcases List.mem_flatMap.mp h with ⟨letter, hletter, hmark⟩
    cases letter with
    | plain c hc =>
        rw [Letter.text, List.mem_singleton] at hmark
        subst hmark
        exact absurd hc (by decide)
    | escape c hc =>
        -- The backslash is no mark, so it is the character behind it.
        rw [Letter.text, List.mem_cons, List.mem_singleton] at hmark
        rcases hmark with hback | hmark
        · exact absurd hback (by decide)
        · subst hmark
          exact hletter
    | code digits _ hex =>
        rw [Letter.text, List.mem_cons, List.mem_cons] at hmark
        rcases hmark with hback | hcode | hdigit
        · exact absurd hback (by decide)
        · exact absurd hcode (by decide)
        · exact absurd rfl (ne_of_isInert (hex_not_special (hex _ hdigit)).1 (by decide))
  · exact fun h => List.mem_flatMap.mpr ⟨Letter.mark, h, List.mem_cons_of_mem _ (List.mem_cons_self ..)⟩

/-- A bare key without marks stays what it is. -/
theorem rewrites_bare {k : Key} (h : Letter.mark ∉ k.name) : Rewrites Key.bare Key.bare k := by
  intro rest
  refine unquoted_append (fun c hc => ?_) rest
  rintro rfl
  rcases List.mem_append.mp hc with hname | hcolon
  · exact h (mark_mem_chars.mp (trimEnd_subset hname))
  · exact absurd hcolon (by decide)

/-- A document with bare keys stays what it is. -/
theorem Document.unquoted_bare (d : Document) (h : ∀ k ∈ d.keys, Letter.mark ∉ k.name) :
    unquoted d.bare = d.bare :=
  d.unquoted_textWith fun k hk => rewrites_bare (h k hk)

/-- Rewriting the keys of a document a second time changes nothing if no key has a mark among its letters.
    Documents are all that is accepted as JSON. -/
theorem rewriteKeys_repeated :
    (∀ d : Document, (∀ k ∈ d.keys, Letter.mark ∉ k.name) →
      ∃ literal, rewriteKeys "\x7b0\x7d:" d.text = .ok literal ∧
        rewriteKeys "\x7b0\x7d:" literal = .ok literal) ∧
      ∀ (limit : Option Nat) (t : Text) (v : Value), read limit t = .ok v →
        ∃ d : Document, d.text = t := by
  refine ⟨fun d hkeys => ⟨d.bare, ?_, ?_⟩, fun limit t v h => read_sound h⟩
  · rw [← d.unquoted_text]
    exact rewriteKeys_javaScript d.text
  · have hsame := rewriteKeys_javaScript d.bare
    rwa [d.unquoted_bare hkeys] at hsame

/-- A document with an empty key, a key that starts with a colon and ends with a backslash, and a string that
    looks like a key. -/
def colons : Document :=
  let none : Gap := .none
  let first : Member := .mk ⟨[], none⟩ none (.string (plainLetters "z" (by decide))) none
  let name : List Letter := plainLetters ":b" (by decide) ++ [.escape '\\' (by decide)]
  let items : Items := .last (.string (.mark :: plainLetters ":" (by decide))) none
  let second : Member := .mk ⟨name ++ plainLetters " " (by decide), .blank⟩ .blank (.array none items) none
  ⟨none, .object none (.next first none (.last second)), none⟩

theorem rewriteKeys_repeated_colons :
    colons.text = "\x7b\"\":\"z\",\":b\\\\ \" : [\"\\\":\"]\x7d" ∧
      (∀ k ∈ colons.keys, Letter.mark ∉ k.name) ∧
        ∃ literal, rewriteKeys "\x7b0\x7d:" colons.text = .ok literal ∧
          rewriteKeys "\x7b0\x7d:" literal = .ok literal := by
  have hchars : ∀ k ∈ colons.keys, stringMark ∉ chars k.name := by decide
  have hkeys : ∀ k ∈ colons.keys, Letter.mark ∉ k.name :=
    fun k hk hmark => hchars k hk (mark_mem_chars.mpr hmark)
  rcases rewriteKeys_repeated.1 colons hkeys with ⟨literal, hliteral, hagain⟩
  exact ⟨rfl, hkeys, literal, hliteral, hagain⟩

/-- With a mark in a key, the second time finds a key that was none. -/
example : unquoted "\x7b\"a\\\"\":\"x\",\"b\":\":\"\x7d" = "\x7ba\\\":\"x\",b:\":\"\x7d" ∧
    unquoted "\x7ba\\\":\"x\",b:\":\"\x7d" ≠ "\x7ba\\\":\"x\",b:\":\"\x7d" := by
  decide +kernel

end Json

end CallSnippets
