import CallSnippets.Grammar.Basic

/-!
# The grammar of JavaScript

Snippets for a client whose calls are chained: a client is set up, asked for a path, and given
headers and query modifiers one call after the other.

## Main definitions

* `javaScriptReserved`: The reserved words.
* `javaScript`: The grammar.
-/

namespace CallSnippets

/-- Words that no variable can be named in JavaScript. -/
def javaScriptReserved : List Text :=
  List.map Text.ofString
    ["await", "abstract", "arguments", "boolean", "break", "byte", "case", "catch", "char", "const",
      "continue", "debugger", "default", "delete", "do", "double", "else", "enum", "export",
      "extends", "eval", "false", "final", "finally", "float", "for", "function", "goto", "if",
      "implements", "in", "instanceof", "int", "interface", "let", "long", "native", "new", "null",
      "package", "private", "protected", "public", "return", "short", "static", "switch",
      "synchronized", "this", "throw", "throws", "transient", "true", "try", "typeof", "var",
      "void", "volatile", "while", "with", "yield"]

/-- The grammar of JavaScript. -/
def javaScript : Grammar where
  name := "JavaScript"
  fileExtension := "js"
  modifierTemplates :=
    [(.many .filter, "\n\t.filter('\x7b0\x7d')"), (.one .search, "\n\t.search('\x7b0\x7d')"),
      (.one .expand, "\n\t.expand('\x7b0\x7d')"), (.many .select, "\n\t.select('\x7b0\x7d')"),
      (.many .orderby, "\n\t.orderby('\x7b0\x7d')"), (.one .skip, "\n\t.skip(\x7b0\x7d)"),
      (.one .skiptoken, "\n\t.skiptoken('\x7b0\x7d')"), (.one .top, "\n\t.top(\x7b0\x7d)")]
  filterDelimiter := ","
  selectDelimiter := ","
  orderbyDelimiter := " "
  headerTemplate := "\n\t.header('\x7b0\x7d','\x7b1\x7d')"
  reservedNames := javaScriptReserved
  reservedEscape := "_"
  doubleQuoteEscape := "\""
  singleQuoteEscape := "\\'"
  preamble :=
    "const options = \x7b\n\tauthProvider,\n\x7d;\n\nconst client = Client.init(options);\n\n"
  requestTemplate := "let res = await client.api('\x7bpath\x7d')"
  versionTemplate := "\n\t.version('\x7b0\x7d')"
  previewVersion := "beta"
  verbTemplates :=
    [("GET", "\n\t.get();"), ("POST", "\n\t.post(\x7bargument\x7d);"),
      ("PATCH", "\n\t.update(\x7bargument\x7d);"), ("PUT", "\n\t.put(\x7bargument\x7d);"),
      ("DELETE", "\n\t.delete();")]
  bodyTemplate := "const \x7bname\x7d = \x7bbody\x7d;\n\n"
  typedBodyTemplate := "\x7b\x7b\x7btype\x7d: \x7bname\x7d\x7d\x7d"
  keyTemplate := "\x7b0\x7d:"
  bodyMethods := ["PATCH", "PUT"]
  skippedHeaders := ["host"]

end CallSnippets
