import CallSnippets.Grammar.JavaScript
import CallSnippets.Refusal.Basic

/-!
# Known languages

The languages that snippets can be made for, each under its name in small letters and under other
names that it goes by. Blanks around a name and the case of its letters do not matter.

## Main definitions

* `grammars`: The grammars under their names.
* `languageAliases`: Other names.
* `availableLanguages`: The names in order.
* `findGrammar`: The grammar of a language.
-/

namespace CallSnippets

/-- The grammars under the names of their languages, in the order of the names. -/
def grammars : List (Text × Grammar) :=
  [("javascript", javaScript)]

/-- Other names that languages go by. -/
def languageAliases : List (Text × Text) :=
  [("js", "javascript")]

/-- The names of the languages in order. -/
def availableLanguages : List Text :=
  grammars.map Prod.fst

/-- The name that a language is looked up by. -/
def languageKey (language : Text) : Text :=
  let key := Text.lower (Text.trim language)
  (languageAliases.lookup key).getD key

/-- The grammar of a language. -/
def findGrammar (language : Text) : Except Refusal Grammar :=
  match grammars.lookup (languageKey language) with
  | some g => .ok g
  | none => .error (.unknownLanguage language availableLanguages)

end CallSnippets
