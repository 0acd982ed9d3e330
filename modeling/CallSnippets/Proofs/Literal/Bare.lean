import CallSnippets.Literal.Keys
import CallSnippets.Proofs.Grammar.JavaScript

/-!
# Bare keys

What becomes of a text whose keys are written as JavaScript writes them: the characters between the
marks, without the blanks at their end, and a colon. Such a template never fails, so the rewritten
text can be given by a function, `unquoted`, and how this function goes over a text is all that later
arguments need: it copies a character that is no mark, it copies a string that no colon follows, and
it rewrites a string that a colon follows.

The last two need to know where a string ends. Whoever has the string apart from the text behind it
says so by the split that `stringEnd` makes.

## Main definitions

* `Token.unquoted`: A token with bare keys.
* `unquoted`: A text with bare keys.

## Theorems

* `rewriteKeys_javaScript`: Rewriting keys for JavaScript makes a text with bare keys.
* `unquoted_cons`, `unquoted_append`: Characters that are no marks are copied.
* `unquoted_string`: A string that no colon follows is copied.
* `unquoted_key`: A string that a colon follows is rewritten.
-/

namespace CallSnippets

/-- A token with bare keys. -/
def Token.unquoted : Token → Text
  | key content _ => Text.trimEnd content ++ [keyMark]
  | t => t.source

/-- A text with bare keys. -/
def unquoted (t : Text) : Text :=
  (tokens t).flatMap Token.unquoted

theorem write_javaScript (t : Token) : t.write javaScript.keyTemplate = .ok t.unquoted := by
  cases t with
  | char c => rfl
  | string content => rfl
  | key content blanks => exact JavaScript.fill_key (Text.trimEnd content)

/-- Rewriting keys for JavaScript makes a text with bare keys, and never fails. -/
theorem rewriteKeys_javaScript (t : Text) :
    rewriteKeys javaScript.keyTemplate t = .ok (unquoted t) := by
  simp only [rewriteKeys, unquoted]
  -- The tokens are written one by one, and none of them can fail.
  induction tokens t with
  | nil => rfl
  | cons first rest ih =>
      simp only [writeTokens, write_javaScript, ih, ok_bind, pure_eq_ok, List.flatMap_cons]

@[simp] theorem unquoted_nil : unquoted [] = [] := by
  simp only [unquoted, tokens, List.flatMap_nil]

/-- A text is its first token and the text behind it. -/
theorem unquoted_next (c : CodePoint) (rest : Text) :
    unquoted (c :: rest) = (nextToken c rest).1.unquoted ++ unquoted (nextToken c rest).2 := by
  simp only [unquoted, tokens, List.flatMap_cons]

/-- A character that is no mark is copied. -/
theorem unquoted_cons {c : CodePoint} (hc : c ≠ stringMark) (rest : Text) :
    unquoted (c :: rest) = c :: unquoted rest := by
  simp only [unquoted_next, nextToken, if_neg hc, Token.unquoted, Token.source, List.cons_append,
    List.nil_append]

/-- A text without marks is copied. -/
theorem unquoted_append {t : Text} (ht : ∀ c ∈ t, c ≠ stringMark) (rest : Text) :
    unquoted (t ++ rest) = t ++ unquoted rest := by
  induction t with
  | nil => rfl
  | cons c more ih =>
      rw [List.cons_append, unquoted_cons (ht c (List.mem_cons_self ..)),
        ih fun a ha => ht a (List.mem_cons_of_mem c ha), List.cons_append]

/-- A string that no colon follows is copied. -/
theorem unquoted_string {t content rest : Text} (hend : stringEnd t = some (content, rest))
    (hcolon : colonSplit rest = none) :
    unquoted (stringMark :: t) = stringMark :: content ++ stringMark :: unquoted rest := by
  simp only [unquoted_next, nextToken, if_true, hend, hcolon, Token.unquoted, Token.source,
    List.append_assoc, List.cons_append, List.nil_append]

/-- A string that a colon follows is rewritten, together with the blanks before the colon. -/
theorem unquoted_key {t content after blanks rest : Text}
    (hend : stringEnd t = some (content, after)) (hcolon : colonSplit after = some (blanks, rest)) :
    unquoted (stringMark :: t) = Text.trimEnd content ++ keyMark :: unquoted rest := by
  simp only [unquoted_next, nextToken, if_true, hend, hcolon, Token.unquoted, List.append_assoc,
    List.cons_append, List.nil_append]

end CallSnippets
