import CallSnippets.Grammar.Basic

/-!
# Grammars as records

A grammar is read from a mapping, and written to one. Every field has to be given but for the methods
that need a body and the headers that are left out. What is read is complete: there is a call for
every kind of modifier and for each of the methods that every language has.

## Main definitions

* `readTable`: Reads a table of texts.
* `Grammar.missingKinds`, `Grammar.missingMethods`: What a grammar lacks.
* `readGrammar`: Reads a grammar.
* `Grammar.entries`: The entries that a grammar is written with.
-/

namespace CallSnippets

/-- Reads one entry of a table. -/
def readTableEntry {α : Type} (readKey : Value → Reading α) (entry : Value × Value) :
    Reading (α × Text) :=
  Reading.under (keyStep entry.1)
    (Reading.and (Reading.and (.ok Prod.mk) (Reading.under (.name "[key]") (readKey entry.1)))
      (readText entry.2))

/-- Reads a table of texts. -/
def readTable {α : Type} (readKey : Value → Reading α) : Value → Reading (List (α × Text)) :=
  readEntries .notMap fun entries => Reading.all (entries.map (readTableEntry readKey))

namespace Grammar

/-- The kinds of modifiers that a grammar has no call for. -/
def missingKinds (g : Grammar) : List ModifierKind :=
  ModifierKind.all.filter fun kind => (g.modifierTemplates.lookup kind).isNone

/-- The methods that a grammar should have a call for, and has none. -/
def missingMethods (g : Grammar) : List Text :=
  supportedMethods.filter fun method => (g.verbFor? method).isNone

/-- The grammar, if it is complete. -/
def complete (g : Grammar) : Reading Grammar :=
  if !g.missingKinds.isEmpty then
    Reading.fail (.refused ("grammar '" ++ g.name ++ "' has no template for: " ++
      Text.join ", " (g.missingKinds.map ModifierKind.name)))
  else if !g.missingMethods.isEmpty then
    Reading.fail (.refused ("grammar '" ++ g.name ++ "' has no verb template for: " ++
      Text.join ", " g.missingMethods))
  else .ok g

/-- The methods that need a body, where a grammar does not say. -/
def usualBodyMethods : List Text := ["PATCH", "PUT"]

/-- The headers that are left out, where a grammar does not say. -/
def usualSkippedHeaders : List Text := ["host"]

end Grammar

/-- Reads a grammar, complete or not, from the entries of a mapping. -/
def readGrammarFields (entries : List (Value × Value)) : Reading Grammar :=
  let text (name : Text) := Reading.required name readText entries
  let fields : Reading (Text → Text → List (ModifierKind × Text) → Text → Text → Text → Text →
    List Text → Text → Text → Text → Text → Text → Text → Text → List (Text × Text) → Text → Text →
    Text → List Text → List Text → Grammar) := .ok Grammar.mk
  let fields := Reading.and fields (text "name")
  let fields := Reading.and fields (text "file_extension")
  let fields := Reading.and fields (Reading.required "modifier_templates"
    (readTable (readChoice ModifierKind.byName)) entries)
  let fields := Reading.and fields (text "filter_delimiter")
  let fields := Reading.and fields (text "select_delimiter")
  let fields := Reading.and fields (text "orderby_delimiter")
  let fields := Reading.and fields (text "header_template")
  let fields := Reading.and fields (Reading.required "reserved_names" readSet entries)
  let fields := Reading.and fields (text "reserved_name_escape_sequence")
  let fields := Reading.and fields (text "double_quotes_escape_sequence")
  let fields := Reading.and fields (text "single_quote_escape_sequence")
  let fields := Reading.and fields (text "preamble")
  let fields := Reading.and fields (text "request_template")
  let fields := Reading.and fields (text "version_template")
  let fields := Reading.and fields (text "preview_version")
  let fields := Reading.and fields
    (Reading.required "verb_templates" (readTable readText) entries)
  let fields := Reading.and fields (text "body_declaration_template")
  let fields := Reading.and fields (text "typed_body_template")
  let fields := Reading.and fields (text "object_key_template")
  let fields := Reading.and fields
    (Reading.optional "methods_requiring_body" Grammar.usualBodyMethods readSet entries)
  Reading.and fields
    (Reading.optional "skipped_headers" Grammar.usualSkippedHeaders readSet entries)

/-- Reads a grammar from a mapping. -/
def readGrammar : Value → Reading Grammar :=
  readEntries (.notRecord "LanguageGrammar") fun entries =>
    readGrammarFields entries >>= Grammar.complete

/-- A table of texts as a mapping. -/
def tableValue (table : List (Text × Text)) : Value :=
  .map (table.map fun e => (.text e.1, .text e.2))

/-- A list of texts as a value. -/
def textsValue (texts : List Text) : Value :=
  .list (texts.map .text)

namespace Grammar

/-- The entries that a grammar is written with, in the order of its fields. -/
def entries (g : Grammar) : List (Value × Value) :=
  let fields : List (Text × Value) :=
    [("name", .text g.name), ("file_extension", .text g.fileExtension),
      ("modifier_templates",
        tableValue (g.modifierTemplates.map fun e => (e.1.name, e.2))),
      ("filter_delimiter", .text g.filterDelimiter), ("select_delimiter", .text g.selectDelimiter),
      ("orderby_delimiter", .text g.orderbyDelimiter), ("header_template", .text g.headerTemplate),
      ("reserved_names", textsValue g.reservedNames),
      ("reserved_name_escape_sequence", .text g.reservedEscape),
      ("double_quotes_escape_sequence", .text g.doubleQuoteEscape),
      ("single_quote_escape_sequence", .text g.singleQuoteEscape), ("preamble", .text g.preamble),
      ("request_template", .text g.requestTemplate), ("version_template", .text g.versionTemplate),
      ("preview_version", .text g.previewVersion), ("verb_templates", tableValue g.verbTemplates),
      ("body_declaration_template", .text g.bodyTemplate),
      ("typed_body_template", .text g.typedBodyTemplate),
      ("object_key_template", .text g.keyTemplate),
      ("methods_requiring_body", textsValue g.bodyMethods),
      ("skipped_headers", textsValue g.skippedHeaders)]
  fields.map fun f => (.text f.1, f.2)

end Grammar

end CallSnippets
