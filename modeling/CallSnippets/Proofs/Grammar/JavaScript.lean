import CallSnippets.Grammar.JavaScript
import CallSnippets.Literal.Declaration
import CallSnippets.Proofs.Template.Source

/-!
# The calls of JavaScript

What the templates of JavaScript are filled in to, for any arguments. All of them have plain fields
only, so each is known once its pieces are, and the pieces of a fixed template can be computed.

The calls for modifiers are of one shape: the name of the kind, and the value between brackets. Only
two kinds, which count results, have their value without quotation marks; this is `isCount`, and it is
the one place where the eight templates differ beyond the name.

The numbers among the values of modifiers are the only arguments that may have no text. A call with
one is not made then, so the statement on modifiers says what a call is if it is made.

## Main definitions

* `isCount`: The kinds whose value stands without quotation marks.
* `callStart`, `callEnd`: What stands around the value of a modifier.
* `verbText`: The call for a method.

## Theorems

* `fill_request`, `fill_version`, `fill_header`, `fill_body`, `fill_typedBody`, `fill_key`,
  `fill_modifier`: The templates filled in.
* `fill_verb`: The call for a method that JavaScript has a call for.
* `escape_javaScript`: Single quotation marks get a backslash, double ones stay.
-/

namespace CallSnippets

namespace JavaScript

open Template

/-- The value of the kind is a count, which stands without quotation marks. -/
def isCount : ModifierKind → Bool
  | .one .skip => true
  | .one .top => true
  | _ => false

/-- What the call for a modifier starts with. -/
def callStart (kind : ModifierKind) : Text :=
  "\n\t." ++ kind.name ++ (if isCount kind then "(" else "('" : Text)

/-- What the call for a modifier ends with. -/
def callEnd (kind : ModifierKind) : Text :=
  if isCount kind then ")" else "')"

/-- The call for a method, with what it passes on. -/
def verbText (method argument : Text) : Text :=
  if method = "GET" then "\n\t.get();"
  else if method = "POST" then "\n\t.post(" ++ argument ++ ");"
  else if method = "PATCH" then "\n\t.update(" ++ argument ++ ");"
  else if method = "PUT" then "\n\t.put(" ++ argument ++ ");"
  else "\n\t.delete();"

/-! ## Pieces -/

theorem pieces_request :
    pieces javaScript.requestTemplate =
      ([.literal "let res = await client.api('", .field (.plain "path"), .literal "')"], none) :=
  pieces_source (by decide) (by decide)

theorem pieces_version :
    pieces javaScript.versionTemplate =
      ([.literal "\n\t.version('", .field (.plain "0"), .literal "')"], none) :=
  pieces_source (by decide) (by decide)

theorem pieces_header :
    pieces javaScript.headerTemplate =
      ([.literal "\n\t.header('", .field (.plain "0"), .literal "','", .field (.plain "1"),
        .literal "')"], none) :=
  pieces_source (by decide) (by decide)

theorem pieces_body :
    pieces javaScript.bodyTemplate =
      ([.literal "const ", .field (.plain "name"), .literal " = ", .field (.plain "body"),
        .literal ";\n\n"], none) :=
  pieces_source (by decide) (by decide)

theorem pieces_typedBody :
    pieces javaScript.typedBodyTemplate =
      ([.literal "\x7b", .field (.plain "type"), .literal ": ", .field (.plain "name"),
        .literal "\x7d"], none) :=
  pieces_source (by decide) (by decide)

theorem pieces_key :
    pieces javaScript.keyTemplate = ([.field (.plain "0"), .literal ":"], none) :=
  pieces_source (by decide) (by decide)

theorem pieces_modifier (kind : ModifierKind) :
    pieces (javaScript.templateFor kind) =
      ([.literal (callStart kind), .field (.plain "0"), .literal (callEnd kind)], none) := by
  cases kind with
  | many k => cases k <;> exact pieces_source (by decide) (by decide)
  | one k => cases k <;> exact pieces_source (by decide) (by decide)

/-! ## Templates filled in -/

theorem fill_request (path : Text) :
    fill javaScript.requestTemplate (byName [("path", path)]) =
      .ok ("let res = await client.api('" ++ path ++ "')") := by
  have hpath : (byName [("path", path)]).Gives "path" (.text path) :=
    gives_named "path" _ _ (by decide) rfl rfl
  rw [fill_plain [.literal "let res = await client.api('", .value "path" (.text path),
    .literal "')"] pieces_request (by simp [Part.IsGiven, hpath])]
  simp [writeParts, Argument.plain]

theorem fill_version (version : Text) :
    fill javaScript.versionTemplate (byPosition [version]) =
      .ok ("\n\t.version('" ++ version ++ "')") := by
  have hversion : (byPosition [version]).Gives "0" (.text version) := gives_first _ _
  rw [fill_plain [.literal "\n\t.version('", .value "0" (.text version), .literal "')"]
    pieces_version (by simp [Part.IsGiven, hversion])]
  simp [writeParts, Argument.plain]

theorem fill_header (name value : Text) :
    fill javaScript.headerTemplate (byPosition [name, value]) =
      .ok ("\n\t.header('" ++ name ++ "','" ++ value ++ "')") := by
  have hname : (byPosition [name, value]).Gives "0" (.text name) := gives_first _ _
  have hvalue : (byPosition [name, value]).Gives "1" (.text value) := gives_second _ _ _
  rw [fill_plain [.literal "\n\t.header('", .value "0" (.text name), .literal "','",
    .value "1" (.text value), .literal "')"] pieces_header (by simp [Part.IsGiven, hname, hvalue])]
  simp [writeParts, Argument.plain]

theorem fill_body (name body : Text) :
    fill javaScript.bodyTemplate (byName [("name", name), ("body", body)]) =
      .ok ("const " ++ name ++ " = " ++ body ++ ";\n\n") := by
  have hname : (byName [("name", name), ("body", body)]).Gives "name" (.text name) :=
    gives_named "name" _ _ (by decide) rfl rfl
  have hbody : (byName [("name", name), ("body", body)]).Gives "body" (.text body) :=
    gives_named_next "body" "name" _ _ _ (by decide) rfl rfl (by decide)
  rw [fill_plain [.literal "const ", .value "name" (.text name), .literal " = ",
    .value "body" (.text body), .literal ";\n\n"] pieces_body (by
      simp [Part.IsGiven, hname, hbody])]
  simp [writeParts, Argument.plain]

theorem fill_typedBody (type name : Text) :
    fill javaScript.typedBodyTemplate (byName [("type", type), ("name", name)]) =
      .ok ("\x7b" ++ type ++ ": " ++ name ++ "\x7d") := by
  have htype : (byName [("type", type), ("name", name)]).Gives "type" (.text type) :=
    gives_named "type" _ _ (by decide) rfl rfl
  have hname : (byName [("type", type), ("name", name)]).Gives "name" (.text name) :=
    gives_named_next "name" "type" _ _ _ (by decide) rfl rfl (by decide)
  rw [fill_plain [.literal "\x7b", .value "type" (.text type), .literal ": ",
    .value "name" (.text name), .literal "\x7d"] pieces_typedBody (by
      simp [Part.IsGiven, htype, hname])]
  simp [writeParts, Argument.plain]

theorem fill_key (key : Text) :
    fill javaScript.keyTemplate (byPosition [key]) = .ok (key ++ ":") := by
  have hkey : (byPosition [key]).Gives "0" (.text key) := gives_first _ _
  rw [fill_plain [.value "0" (.text key), .literal ":"] pieces_key (by
    simp [Part.IsGiven, hkey])]
  simp [writeParts, Argument.plain]

/-- The call for a modifier is made exactly if its value has a text. -/
theorem fill_modifier (kind : ModifierKind) (a : Argument) :
    fill (javaScript.templateFor kind) ⟨[a], []⟩ =
      a.plain.map fun value => callStart kind ++ value ++ callEnd kind := by
  rw [fill_plain [.literal (callStart kind), .value "0" a, .literal (callEnd kind)]
    (pieces_modifier kind) (by simp [Part.IsGiven, gives_first])]
  cases ha : a.plain <;> simp [writeParts, ha]

/-! ## Methods -/

theorem fill_literal {template t : Text} (args : Arguments)
    (hcut : pieces template = ([.literal t], none)) : fill template args = .ok t := by
  rw [fill_plain [.literal t] hcut (by simp [Part.IsGiven])]
  simp [writeParts]

theorem fill_call {template : Text} (start stop argument : Text)
    (hcut : pieces template =
      ([.literal start, .field (.plain "argument"), .literal stop], none)) :
    fill template (byName [("argument", argument)]) = .ok (start ++ argument ++ stop) := by
  have hargument : (byName [("argument", argument)]).Gives "argument" (.text argument) :=
    gives_named "argument" _ _ (by decide) rfl rfl
  rw [fill_plain [.literal start, .value "argument" (.text argument), .literal stop] hcut (by
    simp [Part.IsGiven, hargument])]
  simp [writeParts, Argument.plain]

/-- JavaScript has a call for the supported methods, and for no others. -/
theorem verb_mem {method verb : Text} (h : javaScript.verbFor? method = some verb) :
    (method, verb) ∈ javaScript.verbTemplates := by
  rcases List.lookup_eq_some_iff.mp h with ⟨before, after, hlist, _⟩
  rw [hlist]
  exact List.mem_append_right before (List.mem_cons_self ..)

theorem fill_verb {method verb : Text} (argument : Text)
    (h : javaScript.verbFor? method = some verb) :
    fill verb (byName [("argument", argument)]) = .ok (verbText method argument) := by
  have hmem := verb_mem h
  simp only [javaScript, List.mem_cons, Prod.mk.injEq, List.not_mem_nil, or_false] at hmem
  -- The calls that pass nothing on are literals, the others have one field.
  rcases hmem with ⟨rfl, rfl⟩ | ⟨rfl, rfl⟩ | ⟨rfl, rfl⟩ | ⟨rfl, rfl⟩ | ⟨rfl, rfl⟩
  · exact fill_literal (t := "\n\t.get();") _ (pieces_source (by decide) (by decide))
  · exact fill_call "\n\t.post(" ");" argument (pieces_source (by decide) (by decide))
  · exact fill_call "\n\t.update(" ");" argument (pieces_source (by decide) (by decide))
  · exact fill_call "\n\t.put(" ");" argument (pieces_source (by decide) (by decide))
  · exact fill_literal (t := "\n\t.delete();") _ (pieces_source (by decide) (by decide))

/-- Single quotation marks get a backslash, double ones stay as they are. -/
theorem escape_javaScript (t : Text) : javaScript.escape t = Text.replace '\'' "\\'" t := by
  have hdouble : ∀ u : Text, Text.replace '"' "\"" u = u := by
    intro u
    induction u with
    | nil => rfl
    | cons c rest ih =>
        simp only [Text.replace, List.flatMap_cons] at ih ⊢
        rw [ih]
        by_cases hc : c = '"'
        · rw [if_pos hc, hc]
          rfl
        · rw [if_neg hc]
          rfl
  simp only [Grammar.escape, javaScript, hdouble]

end JavaScript

end CallSnippets
