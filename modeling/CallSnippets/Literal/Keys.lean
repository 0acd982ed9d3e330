import CallSnippets.Literal.Token
import CallSnippets.Template.Fill

/-!
# Keys without marks

In an object literal a key is written without quotation marks. Every string that a colon follows is
written by the template for keys, which gets the characters between the marks without the blanks at
their end and has to bring the colon with it; all other text is kept as it is.

## Main definitions

* `Token.write`: A token as it stands in the literal.
* `rewriteKeys`: A text with its keys rewritten.
-/

namespace CallSnippets

/-- A token as it stands in the literal. -/
def Token.write (keyTemplate : Text) : Token → Except Template.Problem Text
  | key content _ => Template.fill keyTemplate (Template.byPosition [Text.trimEnd content])
  | t => .ok t.source

/-- Tokens as they stand in the literal, up to the first that cannot be written. -/
def writeTokens (keyTemplate : Text) : List Token → Except Template.Problem Text
  | [] => .ok []
  | t :: rest => do
    let first ← t.write keyTemplate
    let more ← writeTokens keyTemplate rest
    return first ++ more

/-- A text with its keys rewritten by a template. -/
def rewriteKeys (keyTemplate t : Text) : Except Template.Problem Text :=
  writeTokens keyTemplate (tokens t)

end CallSnippets
