import CallSnippets.Proofs.Literal.Quoted
import CallSnippets.Proofs.Snippet.JavaScript

/-!
# Values between marks

The calls for headers and modifiers hold texts between single marks, and each of these texts is meant to
be the inside of a string that stands for the value in question. Backslashes are put before the marks in
it, and nothing else is done. So a text stands for its value if it has neither backslashes nor ends of
lines, and only then: a backslash of its own makes an escape of what is behind it, and an end of a line
ends the string before its mark.

Every text that is given for a header or a modifier comes to a snippet in this way, except that the two
counts stand without marks.

## Main definitions

* `quotedText?`: The text of a modifier that stands between marks.

## Theorems

* `quoted_javaScript`: The texts between marks in a snippet, and when they stand for their values.
* `quoted_javaScript_backslash`: A value that is not what its text stands for.
-/

namespace CallSnippets

namespace JavaScript

/-- The text of a modifier that stands between marks: whatever is not given as a number, unless the kind
    is one of the counts. -/
def quotedText? : Modifier → Option Text
  | .many kind values => some (Text.join (delimiterText kind) values)
  | .one kind (.text t) => if isCount (.one kind) then none else some t
  | .one _ (.int _) => none

/-- The call for a modifier has its text between marks. -/
theorem modifierText_quoted {m : Modifier} {v : Text} (h : quotedText? m = some v) :
    modifierText m = "\n\t." ++ m.kind.name ++ "('" ++ escapeSingle v ++ "')" := by
  have hplace : isCount m.kind = false ∧ valueText m = escapeSingle v := by
    cases m with
    | many kind values =>
        rw [quotedText?, Option.some.injEq] at h
        exact ⟨rfl, by rw [valueText, h]⟩
    | one kind value =>
        cases value with
        | int n => exact absurd h.symm (Option.some_ne_none v)
        | text t =>
            rw [quotedText?] at h
            cases hcount : isCount (.one kind) with
            | true =>
                rw [hcount, if_pos rfl] at h
                exact absurd h.symm (Option.some_ne_none v)
            | false =>
                rw [hcount, if_neg Bool.false_ne_true, Option.some.injEq] at h
                exact ⟨hcount, by rw [valueText, h]⟩
  rw [modifierText, callStart, callEnd, hplace.1, hplace.2]
  rfl

theorem infix_flatMap {α : Type} {text : α → Text} {items : List α} {a : α} (ha : a ∈ items) :
    text a <:+: items.flatMap text := by
  rw [List.flatMap_def]
  exact List.infix_of_mem_flatten (List.mem_map_of_mem ha)

/-- The calls for headers and modifiers stand in the snippet of a request that reads. -/
theorem infix_snippetText {r : Request} (hget : r.method = "GET") : queryText r <:+: snippetText r := by
  refine ⟨preambleText ++ requestText r, "\n\t.get();", ?_⟩
  simp [snippetText, callsText, hget, Text.ofString]

/-- Headers and modifiers stand between marks in the snippet of a request that reads, and what stands
    there stands for the value exactly if the value has neither backslashes nor ends of lines. -/
theorem quoted_javaScript {r : Request} {t : Text} (hget : r.method = "GET")
    (h : render javaScript r = .ok t) :
    (∀ header ∈ r.headers, Text.lower header.1 ≠ "host" →
      ("\n\t.header('" ++ escapeSingle header.1 ++ "','" ++ escapeSingle header.2 ++ "')" : Text) <:+:
          t ∧
        (StringBody (escapeSingle header.1) (Text.units header.1) ↔ IsPlainText header.1) ∧
        (StringBody (escapeSingle header.2) (Text.units header.2) ↔ IsPlainText header.2)) ∧
      (r.customOptions = [] → ∀ m ∈ shownModifiers r, ∀ v, quotedText? m = some v →
        ("\n\t." ++ m.kind.name ++ "('" ++ escapeSingle v ++ "')" : Text) <:+: t ∧
          (StringBody (escapeSingle v) (Text.units v) ↔ IsPlainText v)) := by
  rcases render_eq_ok.mp h with ⟨verb, hverb, _, hassemble⟩
  have hquery : queryText r <:+: t := by
    rw [assemble_eq hverb hassemble]
    exact infix_snippetText hget
  constructor
  · intro header hheader hhost
    refine ⟨?_, stringBody_escapeSingle _, stringBody_escapeSingle _⟩
    have hshown : header ∈ r.headers.filter fun h => Text.lower h.1 ≠ "host" :=
      List.mem_filter.mpr ⟨hheader, decide_eq_true hhost⟩
    have hcall : headerText header <:+: headersText r := infix_flatMap hshown
    exact (hcall.trans (List.prefix_append _ _).isInfix).trans hquery
  · intro hcustom m hm v hv
    refine ⟨?_, stringBody_escapeSingle v⟩
    -- The calls stand in the order of all kinds, from which the set ones are taken.
    have hcall : modifierText m <:+: modifiersText r := by
      have hkinds := flatMap_modifiers r ModifierKind.all
      rw [modifiersText, show ([.many .filter, .one .search, .one .expand, .many .select,
        .many .orderby, .one .skip, .one .skiptoken, .one .top] : List ModifierKind) =
          ModifierKind.all from rfl, ← hkinds]
      exact infix_flatMap hm
    rw [← modifierText_quoted hv]
    refine (hcall.trans ?_).trans hquery
    rw [queryText, if_pos hcustom]
    exact (List.suffix_append _ _).isInfix

/-- A request that reads, with a mark in a header and a phrase to search for. -/
def searching (phrase : Text) : Request where
  method := "GET"
  path := "/me"
  segments := []
  apiVersion := "v1.0"
  queryString := []
  customOptions := []
  modifiers := [.one .search (.text phrase)]
  headers := [("Prefer", "it's")]
  body := none
  variableName := "res"

/-- The snippet of a request with a phrase that looks like an escape. -/
def escapedSnippet : { t : Text // render javaScript (searching "a\\b") = .ok t } :=
  ⟨"const options = \x7b\n\tauthProvider,\n\x7d;\n\nconst client = Client.init(options);\n\n" ++
    "let res = await client.api('/me')\n\t.header('Prefer','it\\'s')\n\t.search('a\\b')\n\t.get();",
    eq_ok_of_toOption (by decide +kernel)⟩

theorem quoted_javaScript_searching :
    ("\n\t.header('Prefer','it\\'s')" : Text) <:+: escapedSnippet.val ∧
      StringBody "it\\'s" (Text.units "it's") := by
  have hheader := (quoted_javaScript rfl escapedSnippet.property).1 ("Prefer", "it's")
    (List.mem_singleton.mpr rfl) (by decide)
  exact ⟨hheader.1, hheader.2.2.mpr (by decide)⟩

/-- The phrase is written as it is, but what is written stands for a control character. -/
theorem quoted_javaScript_backslash :
    render javaScript (searching "a\\b") = .ok escapedSnippet.val ∧
      ("\n\t.search('a\\b')" : Text) <:+: escapedSnippet.val ∧
        StringBody "a\\b" [97, 8] ∧ ¬StringBody "a\\b" (Text.units "a\\b") := by
  refine ⟨escapedSnippet.property, ?_, ?_, ?_⟩
  · decide +kernel
  · exact .plain (by decide) (by decide) (by decide) (by decide) (.escape (t := "b") (.letter rfl) .nil)
  · have hplain := stringBody_escapeSingle "a\\b"
    rw [show escapeSingle "a\\b" = "a\\b" by decide] at hplain
    exact fun h => absurd (hplain.mp h) (by decide)

end JavaScript

end CallSnippets
