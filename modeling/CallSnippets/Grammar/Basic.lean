import CallSnippets.Request.Modifier

/-!
# Grammars

A grammar holds everything a snippet takes from its language: the templates of the calls, the
delimiters, the reserved words, and how quotation marks are written inside of strings. Snippets of
every language are put together in the same way from the grammar alone.

## Main definitions

* `Grammar`: The grammar of a language.
* `Grammar.templateFor`, `Grammar.delimiterFor`, `Grammar.verbFor?`: Its tables.
* `Grammar.isReserved`, `Grammar.safeName`: Names that variables cannot have.
* `Grammar.escape`: A text made fit for a string of the language.
-/

namespace CallSnippets

/-- The grammar of a language. -/
structure Grammar where
  /-- The name of the language. -/
  name : Text
  /-- The ending of its files. -/
  fileExtension : Text
  /-- The calls for query modifiers. -/
  modifierTemplates : List (ModifierKind × Text)
  /-- What stands between two filters. -/
  filterDelimiter : Text
  /-- What stands between two selected properties. -/
  selectDelimiter : Text
  /-- What stands between two properties to sort by. -/
  orderbyDelimiter : Text
  /-- The call for a header. -/
  headerTemplate : Text
  /-- Words that no variable can be named. -/
  reservedNames : List Text
  /-- What is added to such a word to make it a name. -/
  reservedEscape : Text
  /-- How a double quotation mark is written inside of a string. -/
  doubleQuoteEscape : Text
  /-- How a single quotation mark is written inside of a string. -/
  singleQuoteEscape : Text
  /-- What every snippet starts with. -/
  preamble : Text
  /-- The line of the request. -/
  requestTemplate : Text
  /-- The call that selects a version. -/
  versionTemplate : Text
  /-- The version that has to be selected. -/
  previewVersion : Text
  /-- The calls for methods. -/
  verbTemplates : List (Text × Text)
  /-- The declaration of a body. -/
  bodyTemplate : Text
  /-- A body under the name of its type. -/
  typedBodyTemplate : Text
  /-- The key of a member in a body. -/
  keyTemplate : Text
  /-- The methods that need a body. -/
  bodyMethods : List Text
  /-- The headers that are left out. -/
  skippedHeaders : List Text
  deriving DecidableEq, Repr

/-- The methods that every grammar has a call for. -/
def supportedMethods : List Text :=
  ["GET", "POST", "PATCH", "PUT", "DELETE"]

namespace Grammar

/-- The call for a modifier of a kind. -/
def templateFor (g : Grammar) (kind : ModifierKind) : Text :=
  (g.modifierTemplates.lookup kind).getD []

/-- What stands between the values of a kind that takes many. -/
def delimiterFor (g : Grammar) : ManyKind → Text
  | .filter => g.filterDelimiter
  | .select => g.selectDelimiter
  | .orderby => g.orderbyDelimiter

/-- The call for a method, if the language has one. -/
def verbFor? (g : Grammar) (method : Text) : Option Text :=
  g.verbTemplates.lookup method

/-- The word cannot be the name of a variable. -/
def isReserved (g : Grammar) (name : Text) : Bool :=
  g.reservedNames.contains name

/-- The name, changed if it is reserved. -/
def safeName (g : Grammar) (name : Text) : Text :=
  if g.isReserved name then name ++ g.reservedEscape else name

/-- The version has to be selected in the snippet. -/
def isPreview (g : Grammar) (version : Text) : Bool :=
  version = g.previewVersion

/-- The method cannot do without a body. -/
def requiresBody (g : Grammar) (method : Text) : Bool :=
  g.bodyMethods.contains method

/-- The text with its quotation marks as they are written inside of a string: first the single ones,
    then the double ones, those of the first step included. -/
def escape (g : Grammar) (t : Text) : Text :=
  Text.replace '"' g.doubleQuoteEscape (Text.replace '\'' g.singleQuoteEscape t)

end Grammar

/-- Why a question about a modifier of a grammar has no answer. -/
inductive KindProblem where
  /-- No kind has the name. -/
  | unknownKind (name : Text)
  /-- The kind takes one value and has no delimiter. -/
  | singleValued (kind : OneKind)
  deriving DecidableEq, Repr

/-- The problem as a fault. -/
def KindProblem.fault : KindProblem → Fault
  | unknownKind name => .value (Text.quoted name ++ " is not a valid ModifierKind")
  | singleValued kind =>
    .value ("modifier '" ++ (ModifierKind.one kind).name ++ "' is single-valued and has no delimiter")

namespace Grammar

/-- The kind with a name, or the problem that there is none. -/
def kindNamed (name : Text) : Except KindProblem ModifierKind :=
  match ModifierKind.ofName? name with
  | some kind => .ok kind
  | none => .error (.unknownKind name)

/-- The call for modifiers of the kind with a name. -/
def templateNamed (g : Grammar) (name : Text) : Except KindProblem Text :=
  (kindNamed name).map g.templateFor

/-- The delimiter of the kind with a name. -/
def delimiterNamed (g : Grammar) (name : Text) : Except KindProblem Text := do
  match ← kindNamed name with
  | .many kind => return g.delimiterFor kind
  | .one kind => .error (.singleValued kind)

end Grammar

end CallSnippets
