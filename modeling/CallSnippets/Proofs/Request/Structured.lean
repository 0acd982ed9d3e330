import CallSnippets.Grammar.JavaScript
import CallSnippets.Proofs.Json.Printed
import CallSnippets.Proofs.Literal.Meaning
import CallSnippets.Proofs.Request.Source
import CallSnippets.Proofs.Text.Upper

/-!
# Bodies with parts

The body of a request may be written as a part of the document, as a mapping or a list. It is then kept as
the JSON text that stands for it. Nothing is lost on the way: the text is read back as the body, and the
other fields of the request are read as if there were no body.

The text is more than blanks even if the body is empty, since there are brackets, and the brackets also keep
it from being trimmed. So the literal that is declared for it comes from the text as it is, and it is the same
layout, with the names as they stand between their marks.

## Main definitions

* `BodyLoads`: What becomes of an entry with such a body.

## Theorems

* `exists_enclosed`, `isTrimmed_enclosed`: The text stands between brackets.
* `bodyValue_structured`, `declareBody_structured`: What is kept and what is declared.
* `readRequestFields_body`: The other fields are read as without a body.
* `namedRequest_structured`: What becomes of an entry with a body of parts.
-/

namespace CallSnippets

open Json (IsData layout quote bareName content isWide bracketed)

variable {path name : Text} {number : Nat} {v body : Value} {entries : List (Value × Value)} {r : Request}

/-! ## The text of a body -/

/-- Data with parts are laid out between brackets. -/
theorem exists_enclosed (hdata : IsData body) (hparts : IsStructured body) (key : Text → Text)
    (depth : Nat) : ∃ opening closing inside, layout key depth body = enclosed opening closing inside ∧
      Text.isBlank opening = false ∧ Text.isBlank closing = false := by
  have hbracketed (opening closing : CodePoint) (parts : List Text) :
      ∃ inside, bracketed opening closing depth parts = enclosed opening closing inside := by
    by_cases hne : parts = []
    · exact ⟨[], by rw [hne]; rfl⟩
    · exact ⟨_, Json.bracketed_eq opening closing depth hne⟩
  cases hdata with
  | @list items hitems =>
      rcases hbracketed '[' ']' (Json.layoutItems key (depth + 1) items) with ⟨inside, hinside⟩
      exact ⟨_, _, inside, hinside, by decide, by decide⟩
  | @map entries hkeys hdistinct hvalues =>
      rcases hbracketed '{' '}' (Json.layoutEntries key (depth + 1) entries) with ⟨inside, hinside⟩
      exact ⟨_, _, inside, hinside, by decide, by decide⟩
  | _ => rcases hparts with h | h <;> cases h

/-- So the text is more than blanks, and no blanks stand at its ends. -/
theorem isTrimmed_enclosed {opening closing : CodePoint} (hopening : Text.isBlank opening = false)
    (hclosing : Text.isBlank closing = false) (t : Text) :
    Text.IsTrimmed (enclosed opening closing t) ∧ Text.allBlank (enclosed opening closing t) = false := by
  refine ⟨⟨fun c hc => ?_, fun c hc => ?_⟩, ?_⟩
  · cases hc
    exact hopening
  · rw [enclosed, List.getLast?_concat] at hc
    cases hc
    exact hclosing
  · rw [enclosed, Text.allBlank, List.cons_append, List.all_cons, hopening, Bool.false_and]

/-- A body with parts is kept as the text that it is printed as. -/
theorem bodyValue_structured (hdata : IsData body) (hparts : IsStructured body) :
    Json.print body = .ok (layout quote 0 body) ∧ bodyValue body = .ok (.text (layout quote 0 body)) := by
  have hprint : Json.print body = .ok (layout quote 0 body) := hdata.print [] 0
  rw [bodyValue_of_structured hparts, hprint]
  exact ⟨rfl, rfl⟩

/-- The literal that is declared for this text is the layout with bare names. -/
theorem declareBody_structured (hdata : IsData body) (hparts : IsStructured body) (variableName : Text) :
    declareBody javaScript (some (layout quote 0 body)) variableName =
      .ok ("const " ++ variableName ++ " = " ++ layout bareName 0 body ++ ";\n\n") := by
  rcases hdata.exists_document with ⟨d, htext, hbare, hread⟩
  rcases exists_enclosed hdata hparts quote 0 with ⟨_, _, inside, hlayout, hopening, hclosing⟩
  have htrim : Text.trim (layout quote 0 body) = d.text := by
    rw [htext, hlayout]
    exact Text.trim_eq_self (isTrimmed_enclosed hopening hclosing inside).1
  rw [Json.declareBody_of_read htrim variableName hread, hbare]

/-! ## The entry -/

/-- A description with a text written for its body is read as it is without one, but for the body. -/
theorem readRequestFields_body {fields : List (Value × Value)} (text : Text)
    (h : readRequestFields (Value.eraseEntry "request_body" fields) = .ok r) :
    readRequestFields (Value.insertEntry (.text "request_body") (.text text) fields) =
      .ok { r with body := some text } := by
  have hsame (name : Text) (hname : name ≠ "request_body") :
      Value.lookup name (Value.insertEntry (.text "request_body") (.text text) fields) =
        Value.lookup name (Value.eraseEntry "request_body" fields) := by
    rw [lookup_insertEntry, if_neg hname, lookup_eraseEntry, if_neg hname]
  have hfields := readRequestFields_eq_ok.mp h
  refine readRequestFields_eq_ok.mpr ?_
  -- The body is read from the text, and every other field from an entry that is the same in both.
  constructor
  case body =>
    have hlookup : Value.lookup "request_body"
        (Value.insertEntry (.text "request_body") (.text text) fields) = some (.text text) := by
      rw [lookup_insertEntry, if_pos rfl]
    exact Reading.optional_of_lookup hlookup rfl
  case method => exact (Reading.required_congr (hsame _ (by decide))).trans hfields.method
  case path => exact (Reading.required_congr (hsame _ (by decide))).trans hfields.path
  case segments => exact (Reading.optional_congr (hsame _ (by decide))).trans hfields.segments
  case apiVersion => exact (Reading.optional_congr (hsame _ (by decide))).trans hfields.apiVersion
  case queryString => exact (Reading.optional_congr (hsame _ (by decide))).trans hfields.queryString
  case customOptions => exact (Reading.optional_congr (hsame _ (by decide))).trans hfields.customOptions
  case modifiers => exact (Reading.optional_congr (hsame _ (by decide))).trans hfields.modifiers
  case headers => exact (Reading.optional_congr (hsame _ (by decide))).trans hfields.headers
  case variableName => exact (Reading.optional_congr (hsame _ (by decide))).trans hfields.variableName

/-- The name of a request does not depend on its body. -/
theorem NamedBy.withBody {id : Option Value} (h : NamedBy r id name) (body : Option Text) :
    NamedBy { r with body } id name := by
  cases h with
  | none => exact .none
  | void hvoid => exact .void hvoid
  | given hcounts hshown => exact .given hcounts hshown

/-- What becomes of an entry with a body of parts, if it is valid otherwise. -/
structure BodyLoads (v body : Value) (name : Text) (r : Request) : Prop where
  /-- The entry is taken, with a text for its body. -/
  taken : ∀ path number,
    namedRequest path number v = .ok (name, { r with body := some (layout quote 0 body) })
  /-- The text is the body printed as JSON. -/
  printed : Json.print body = .ok (layout quote 0 body)
  /-- The text is read back as the body. -/
  denotes : Json.read (some digitLimit) (layout quote 0 body) = .ok body
  /-- The request has a body, even if the body has no parts. -/
  present : ({ r with body := some (layout quote 0 body) } : Request).hasBody = true
  /-- Characters outside of ASCII stand in the text as they are. -/
  unescaped : (layout quote 0 body).filter isWide = (content body).filter isWide
  /-- The literal that is declared for the text is the same layout with bare names. -/
  declared : ∀ variableName, declareBody javaScript (some (layout quote 0 body)) variableName =
    .ok ("const " ++ variableName ++ " = " ++ layout bareName 0 body ++ ";\n\n")

/-- What becomes of an entry with a body of parts. -/
theorem namedRequest_structured (hmap : v.entries? = some entries)
    (hbody : Value.lookup "request_body" entries = some body) (hdata : IsData body)
    (hparts : IsStructured body)
    (hothers : readRequestFields (Value.eraseEntry "request_body" (Value.eraseEntry "id" entries)) = .ok r)
    (hname : NamedBy r (Value.lookup "id" entries) name) : BodyLoads v body name r := by
  rcases bodyValue_structured hdata hparts with ⟨hprint, hvalue⟩
  rcases exists_enclosed hdata hparts quote 0 with ⟨_, _, inside, hlayout, hopening, hclosing⟩
  constructor
  case taken =>
    intro path number
    -- The id is left out before the body is looked for, and is not the body.
    have hkept : Value.lookup "request_body" (Value.eraseEntry "id" entries) = some body := by
      rw [lookup_eraseEntry, if_neg (by decide), hbody]
    have hfields : withBodyText (Value.eraseEntry "id" entries) =
        .ok (Value.insertEntry (.text "request_body") (.text (layout quote 0 body))
          (Value.eraseEntry "id" entries)) := by
      rw [withBodyText, hkept]
      simp only [hvalue, map_ok]
    exact namedRequest_eq_ok.mpr
      (.mk hmap hfields (readRequestFields_body _ hothers) (hname.withBody _))
  case printed => exact hprint
  case denotes =>
    rcases hdata.exists_document with ⟨d, htext, _, hread⟩
    rwa [htext] at hread
  case present =>
    have hvisible := (isTrimmed_enclosed hopening hclosing inside).2
    rw [Request.hasBody, hlayout]
    simp only [hvisible, Bool.not_false]
  case unescaped => exact hdata.filter_layout 0
  case declared => exact fun variableName => declareBody_structured hdata hparts variableName

/-- A body with a name outside of ASCII, a name with a blank at its end, and parts of every kind. -/
def mixedBody : Value :=
  .map [(.text "é\"", .list [.text "a\x01\\ü", .map [], .list [], .int (-12), .bool true, .null]),
    (.text "k ", .text ":")]

theorem isData_mixedBody : IsData mixedBody := by
  have hlist : IsData (.list [.text "a\x01\\ü", .map [], .list [], .int (-12), .bool true, .null]) := by
    refine .list ?_
    simp only [List.forall_mem_cons]
    refine ⟨.text _, .map ?_ List.nodup_nil ?_, .list ?_, .int (by decide), .bool true, .null, ?_⟩
    all_goals exact fun _ h => absurd h List.not_mem_nil
  have hdiffer : Value.text "é\"" ≠ .text "k " := fun h => absurd (Value.text.inj h) (by decide)
  refine .map ?_ ?_ ?_
  · exact List.forall_mem_cons.mpr ⟨⟨_, rfl⟩, List.forall_mem_singleton.mpr ⟨_, rfl⟩⟩
  · refine List.nodup_cons.mpr ⟨fun h => hdiffer (List.mem_singleton.mp h), ?_⟩
    exact List.nodup_cons.mpr ⟨List.not_mem_nil, List.nodup_nil⟩
  · exact List.forall_mem_cons.mpr ⟨hlist, List.forall_mem_singleton.mpr (.text _)⟩

/-- The entries of a request with this body and without an id. -/
def mixedEntries : List (Value × Value) :=
  [(.text "method", .text "post"), (.text "request_body", mixedBody), (.text "path", .text "/me")]

/-- The literal that is declared for the body: a mark in a name keeps its backslash, and a blank at the end of
    a name is lost. -/
def mixedLiteral : Text :=
  "\x7b\n    é\\\": [\n        \"a\\u0001\\\\ü\",\n        \x7b\x7d,\n        [],\n        -12,\n" ++
    "        true,\n        null\n    ],\n    k: \":\"\n\x7d"

/-- The request without the body. -/
def mixedRequest : { r : Request //
    readRequestFields (Value.eraseEntry "request_body" (Value.eraseEntry "id" mixedEntries)) = .ok r ∧
    requestName r.method r.path = Text.ofString "post-me" ∧ layout bareName 0 mixedBody = mixedLiteral } :=
  ⟨(readRequestFields (Value.eraseEntry "request_body" (Value.eraseEntry "id" mixedEntries))).toOption.get
    (by decide +kernel), eq_ok_of_toOption (Option.some_get _).symm, by decide +kernel⟩

/-- The entry is taken, and this literal is declared for it. -/
theorem namedRequest_structured_mixed :
    BodyLoads (.map mixedEntries) mixedBody "post-me" mixedRequest.val ∧
      declareBody javaScript (some (layout quote 0 mixedBody)) "x" =
        .ok ("const x = " ++ mixedLiteral ++ ";\n\n") := by
  rcases mixedRequest with ⟨r, hread, hname, hliteral⟩
  have hnamed : NamedBy r (Value.lookup "id" mixedEntries) "post-me" := by
    rw [← hname]
    exact .none
  have hloads : BodyLoads (.map mixedEntries) mixedBody "post-me" r :=
    namedRequest_structured rfl rfl isData_mixedBody (.inl rfl) hread hnamed
  refine ⟨hloads, ?_⟩
  rw [← hliteral]
  exact hloads.declared "x"

end CallSnippets
