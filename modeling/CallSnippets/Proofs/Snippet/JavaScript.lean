import CallSnippets.Proofs.Grammar.JavaScript
import CallSnippets.Proofs.Literal.Bare
import CallSnippets.Proofs.Snippet.Escaped
import CallSnippets.Proofs.Snippet.Headers

/-!
# The snippets of JavaScript

The text of a snippet, written out part by part without templates. A snippet that is made for
JavaScript is this text, for every request: whatever the method, the version, the query, the body and
the path, no part is lost, doubled or moved, and no part depends on what it has nothing to do with.

There need not be a snippet, since the method may be unknown, a body may be missing, and a number may
have too many digits to be written out or to be checked. So every part is treated from its end: if it
was made, it is the text it should be.

## Main definitions

* `variableText`, `declarationText`, `argumentText`: What comes of a body.
* `headersText`, `modifiersText`, `queryText`: What comes of a query.
* `requestText`: The line of the request with the choice of a version.
* `snippetText`: The snippet.

## Theorems

* `concatenate_eq`: Texts of items, from the text of each item.
* `declareBody_eq`, `bodyArgument_eq`, `querySection_eq`, `requestSection_eq`: The parts.
* `assemble_eq`: The parts put together.
* `render_javaScript`: The snippet of a request.
-/

namespace CallSnippets

namespace JavaScript

/-! ## The text of a snippet -/

/-- The name of the variable for the body, which must not be a reserved word. -/
def variableText (r : Request) : Text :=
  if javaScriptReserved.contains r.variableName then r.variableName ++ "_" else r.variableName

/-- The declaration of the body, if there is one. -/
def declarationText (r : Request) : Text :=
  match r.body with
  | none => []
  | some body =>
    if Text.allBlank body then []
    else "const " ++ variableText r ++ " = " ++ unquoted (Text.trim body) ++ ";\n\n"

/-- What the call for a method is given: nothing without a body, and the body under the name of its
    type unless there is no such name. -/
def argumentText (r : Request) : Text :=
  if r.hasBody then
    match r.lastSegment? with
    | none => variableText r
    | some s =>
      if s.isOperation then variableText r
      else "\x7b" ++ s.shortTypeName ++ ": " ++ variableText r ++ "\x7d"
  else []

/-- The call for a header. -/
def headerText (header : Text × Text) : Text :=
  "\n\t.header('" ++ escapeSingle header.1 ++ "','" ++ escapeSingle header.2 ++ "')"

/-- The calls for headers, all but the one that names the host. -/
def headersText (r : Request) : Text :=
  (r.headers.filter fun h => Text.lower h.1 ≠ "host").flatMap headerText

/-- What stands between the values of a kind that takes many. -/
def delimiterText : ManyKind → Text
  | .orderby => " "
  | _ => ","

/-- The value in the call for a modifier. -/
def valueText : Modifier → Text
  | .many kind values => escapeSingle (Text.join (delimiterText kind) values)
  | .one _ (.text t) => escapeSingle t
  | .one _ (.int n) => intText n

/-- The call for a modifier. -/
def modifierText (m : Modifier) : Text :=
  callStart m.kind ++ valueText m ++ callEnd m.kind

/-- The call for the modifier of a kind, if it is set to something. -/
def kindText (r : Request) (kind : ModifierKind) : Text :=
  match r.modifiers.find? kind with
  | none => []
  | some (.many _ []) => []
  | some m => modifierText m

/-- The calls for modifiers in the order of their kinds. -/
def modifiersText (r : Request) : Text :=
  [.many .filter, .one .search, .one .expand, .many .select, .many .orderby, .one .skip,
    .one .skiptoken, .one .top].flatMap (kindText r)

/-- The calls for headers and modifiers. Modifiers travel on the path if there are other options. -/
def queryText (r : Request) : Text :=
  headersText r ++ if r.customOptions = [] then modifiersText r else []

/-- The path with the query, if the query travels on it. -/
def pathText (r : Request) : Text :=
  if r.customOptions = [] then r.path else r.path ++ r.queryString

/-- The choice of a version, if it has to be chosen. -/
def versionText (r : Request) : Text :=
  if r.apiVersion = "beta" then "\n\t.version('beta')" else []

/-- The line of the request with the choice of a version. -/
def requestText (r : Request) : Text :=
  "let res = await client.api('" ++ pathText r ++ "')" ++ versionText r

/-- The calls behind the line of the request. -/
def callsText (r : Request) : Text :=
  if r.method = "GET" then queryText r ++ "\n\t.get();" else verbText r.method (argumentText r)

/-- What stands before the declaration of a body. -/
def preambleText : Text :=
  "const options = \x7b\n\tauthProvider,\n\x7d;\n\nconst client = Client.init(options);\n\n"

/-- The snippet of a request. -/
def snippetText (r : Request) : Text :=
  preambleText ++
    (if r.method = "POST" ∨ r.method = "PATCH" ∨ r.method = "PUT" then declarationText r else []) ++
    (requestText r ++ callsText r)

/-! ## Bodies -/

theorem safeName_eq (r : Request) : javaScript.safeName r.variableName = variableText r := rfl

theorem declareBody_eq {r : Request} {t : Text}
    (h : declareBody javaScript r.body (variableText r) = .ok t) : t = declarationText r := by
  unfold declareBody at h
  unfold declarationText
  cases hbody : r.body with
  | none =>
      simp only [hbody, Except.ok.injEq] at h
      exact h.symm
  | some body =>
      simp only [hbody] at h ⊢
      by_cases hblank : Text.allBlank body = true
      · simp only [hblank, if_true, Except.ok.injEq] at h ⊢
        exact h.symm
      · simp only [hblank, Bool.false_eq_true, if_false] at h ⊢
        cases hfault : jsonFault? (Text.trim body) with
        | some fault => simp only [hfault, reduceCtorEq] at h
        | none =>
            simp only [hfault, rewriteKeys_javaScript, mapError_ok, ok_bind, fillOrFault, fill_body,
              Except.ok.injEq] at h
            exact h.symm

theorem bodyArgument_eq (r : Request) :
    bodyArgument javaScript r (variableText r) = .ok (argumentText r) := by
  unfold bodyArgument argumentText
  cases r.hasBody with
  | false => rfl
  | true =>
      simp only [Bool.not_true, Bool.false_eq_true, if_false, if_true]
      cases r.lastSegment? with
      | none => rfl
      | some s =>
          by_cases hoperation : s.isOperation = true
          · simp only [hoperation, if_true]
          · simp only [hoperation, Bool.false_eq_true, if_false, fillOrFault, fill_typedBody,
              mapError_ok]

/-! ## Queries -/

/-- The text made from items is known from what is made from each of them. -/
theorem concatenate_eq {α : Type} {make : α → Except Fault Text} {text : α → Text}
    (hmake : ∀ a t, make a = .ok t → t = text a) {items : List α} {t : Text}
    (h : concatenate make items = .ok t) : t = items.flatMap text := by
  rcases concatenate_eq_ok.mp h with ⟨texts, htexts, rfl⟩
  have hall : List.Forall₂ (· = ·) (items.map text) texts :=
    List.forall₂_map_left_iff.mpr (htexts.imp fun a u hu => (hmake a u hu).symm)
  rw [List.forall₂_eq_eq_eq] at hall
  rw [← hall, List.flatMap_def]

theorem headerSection_eq {r : Request} {t : Text} (h : headerSection javaScript r = .ok t) :
    t = headersText r := by
  have hmake : ∀ header t, headerCall javaScript header = .ok t → t = headerText header := by
    intro header t ht
    simp only [headerCall, fillOrFault, fill_header, mapError_ok, Except.ok.injEq,
      escape_javaScript] at ht
    exact ht.symm
  -- Names of headers are compared in lower case, and there is one name to compare with.
  have hshown : shownHeaders javaScript r = r.headers.filter fun h => Text.lower h.1 ≠ "host" := by
    refine List.filter_congr fun header _ => ?_
    rw [Bool.eq_iff_iff]
    simp only [Grammar.skips, javaScript, List.contains_cons, List.contains_nil, Bool.or_false,
      Bool.not_eq_true', beq_eq_false_iff_ne, ne_eq, decide_eq_true_eq]
  rw [headerSection, hshown] at h
  exact concatenate_eq hmake h

theorem delimiterFor_eq (kind : ManyKind) : javaScript.delimiterFor kind = delimiterText kind := by
  cases kind <;> rfl

/-- The argument of the call for a modifier, if it has a text. -/
theorem plain_modifierArgument {m : Modifier} {value : Text}
    (h : (modifierArgument javaScript m).plain = .ok value) : value = valueText m := by
  cases m with
  | many kind values =>
      simp only [modifierArgument, Template.Argument.plain, Except.ok.injEq] at h
      rw [← h, delimiterFor_eq, escape_javaScript, valueText, escapeSingle]
  | one kind scalar =>
      cases scalar with
      | text t =>
          simp only [modifierArgument, Template.Argument.plain, Except.ok.injEq] at h
          rw [← h, escape_javaScript, valueText, escapeSingle]
      | int n =>
          simp only [modifierArgument, Template.Argument.plain, intText?] at h
          -- A number with too many digits has no text, so no call was made with it.
          by_cases hlong : (natText n.natAbs).length ≤ digitLimit
          · simp only [if_pos hlong, Except.ok.injEq] at h
            exact h.symm
          · simp only [if_neg hlong, reduceCtorEq] at h

theorem modifierCall_eq {m : Modifier} {t : Text} (h : modifierCall javaScript m = .ok t) :
    t = modifierText m := by
  rw [modifierCall, fillOrFault, fill_modifier] at h
  cases hplain : (modifierArgument javaScript m).plain with
  | error problem => simp only [hplain, map_error, mapError_error, reduceCtorEq] at h
  | ok value =>
      simp only [hplain, map_ok, mapError_ok, Except.ok.injEq] at h
      rw [← h, plain_modifierArgument hplain, modifierText]

/-- Modifiers that are set are found kind by kind. -/
theorem flatMap_modifiers (r : Request) (kinds : List ModifierKind) :
    ((kinds.filterMap fun kind => r.modifiers.find? kind).filter Modifier.isSet).flatMap modifierText =
      kinds.flatMap (kindText r) := by
  induction kinds with
  | nil => rfl
  | cons kind rest ih =>
      rw [List.flatMap_cons, ← ih]
      cases hfind : r.modifiers.find? kind with
      | none =>
          simp only [List.filterMap_cons, hfind, kindText, List.nil_append]
      | some m =>
          simp only [List.filterMap_cons, hfind]
          cases m with
          | many k values =>
              cases values with
              | nil => simp only [kindText, hfind, List.nil_append]; rfl
              | cons v more => simp only [kindText, hfind]; rfl
          | one k value => simp only [kindText, hfind]; rfl

theorem modifierSection_eq {r : Request} {t : Text} (h : modifierSection javaScript r = .ok t) :
    t = modifiersText r := by
  rw [concatenate_eq (fun m t => modifierCall_eq) h, shownModifiers, flatMap_modifiers]
  rfl

theorem querySection_eq {r : Request} {t : Text} (h : querySection javaScript r = .ok t) :
    t = queryText r := by
  rw [querySection] at h
  rcases bind_eq_ok.mp h with ⟨headers, hheaders, h⟩
  rw [queryText, ← headerSection_eq hheaders]
  rw [Request.hasCustomQuery] at h
  cases hcustom : r.customOptions with
  | cons option rest =>
      simp only [hcustom, List.isEmpty_cons, Bool.not_false, if_true, pure_eq_ok, Except.ok.injEq] at h
      rw [if_neg (List.cons_ne_nil option rest), List.append_nil, h]
  | nil =>
      simp only [hcustom, List.isEmpty_nil, Bool.not_true, Bool.false_eq_true, if_false] at h
      rcases bind_eq_ok.mp h with ⟨modifiers, hmodifiers, h⟩
      simp only [pure_eq_ok, Except.ok.injEq] at h
      rw [if_pos rfl, ← h, modifierSection_eq hmodifiers]

/-! ## Requests -/

theorem requestPath_eq (r : Request) : requestPath r = pathText r := by
  rw [requestPath, pathText, Request.hasCustomQuery]
  cases r.customOptions <;> rfl

theorem requestSection_eq (r : Request) : requestSection javaScript r = .ok (requestText r) := by
  rw [requestSection, fillOrFault, fill_request, mapError_ok, ok_bind, requestText, requestPath_eq,
    versionText]
  by_cases hversion : r.apiVersion = "beta"
  · have hpreview : javaScript.isPreview r.apiVersion = true := decide_eq_true hversion
    rw [if_pos hpreview, fillOrFault, fill_version, mapError_ok, ok_bind, if_pos hversion, hversion]
    rfl
  · have hpreview : ¬javaScript.isPreview r.apiVersion = true := by
      rw [Grammar.isPreview, decide_eq_true_eq]
      exact hversion
    rw [if_neg hpreview, if_neg hversion, List.append_nil]
    rfl

theorem sendsBody_iff {method : Text} :
    sendsBody method = true ↔ method = "POST" ∨ method = "PATCH" ∨ method = "PUT" := by
  simp only [sendsBody, List.contains_iff_mem, List.mem_cons, List.not_mem_nil, or_false]

/-- A call that passes no body on does not depend on what it is given. -/
theorem verbText_noBody {method : Text} (h : ¬sendsBody method = true) (a b : Text) :
    verbText method a = verbText method b := by
  have hpost : method ≠ "POST" := by rintro rfl; exact h (by decide)
  have hpatch : method ≠ "PATCH" := by rintro rfl; exact h (by decide)
  have hput : method ≠ "PUT" := by rintro rfl; exact h (by decide)
  simp only [verbText, if_neg hpost, if_neg hpatch, if_neg hput]

theorem declarationAndCalls_eq {r : Request} {verb declaration calls : Text}
    (hverb : javaScript.verbFor? r.method = some verb)
    (h : declarationAndCalls javaScript r verb = .ok (declaration, calls)) :
    declaration = (if sendsBody r.method then declarationText r else []) ∧ calls = callsText r := by
  simp only [declarationAndCalls, safeName_eq, verbCall, fillOrFault, fill_verb _ hverb,
    mapError_ok, ok_bind, pure_eq_ok, bodyArgument_eq] at h
  by_cases hget : r.method = "GET"
  · rw [if_pos hget] at h
    rcases bind_eq_ok.mp h with ⟨query, hquery, h⟩
    simp only [Except.ok.injEq, Prod.mk.injEq] at h
    -- A request that reads sends no body, so nothing is declared for it.
    have hsends : ¬sendsBody r.method = true := by rw [hget]; decide
    rw [if_neg hsends, callsText, if_pos hget, ← h.1, ← h.2, querySection_eq hquery, hget]
    exact ⟨rfl, rfl⟩
  · rw [if_neg hget] at h
    rw [callsText, if_neg hget]
    by_cases hsends : sendsBody r.method = true
    · rw [if_pos hsends] at h ⊢
      rcases bind_eq_ok.mp h with ⟨declared, hdeclared, h⟩
      simp only [Except.ok.injEq, Prod.mk.injEq] at h
      rw [← h.1, ← h.2, declareBody_eq hdeclared]
      exact ⟨rfl, rfl⟩
    · rw [if_neg hsends] at h ⊢
      simp only [Except.ok.injEq, Prod.mk.injEq] at h
      rw [← h.1, ← h.2]
      exact ⟨rfl, verbText_noBody hsends _ _⟩

/-- The parts of a snippet put together, if they could be made. -/
theorem assemble_eq {r : Request} {verb t : Text} (hverb : javaScript.verbFor? r.method = some verb)
    (h : assemble javaScript r verb = .ok t) : t = snippetText r := by
  rw [assemble] at h
  rcases bind_eq_ok.mp h with ⟨⟨declaration, calls⟩, hparts, h⟩
  rcases declarationAndCalls_eq hverb hparts with ⟨hdeclaration, hcalls⟩
  simp only [requestSection_eq, ok_bind, pure_eq_ok, Except.ok.injEq] at h
  rw [← h, hdeclaration, hcalls, snippetText]
  simp only [sendsBody_iff]
  rfl

/-- JavaScript has a call for the usual methods, and for no others. -/
theorem method_mem {method verb : Text} (h : javaScript.verbFor? method = some verb) :
    method ∈ supportedMethods :=
  List.mem_map_of_mem (f := Prod.fst) (verb_mem h)

/-- The snippet of a request, for every request that there is one for. -/
theorem render_javaScript {r : Request} {t : Text} (h : render javaScript r = .ok t) :
    r.method ∈ supportedMethods ∧ t = snippetText r := by
  rcases render_eq_ok.mp h with ⟨verb, hverb, _, hassemble⟩
  exact ⟨method_mem hverb, assemble_eq hverb hassemble⟩

/-- A request that sends a body to a path with options of its own, in the version that is chosen. -/
def posted : Request where
  method := "POST"
  path := "/users"
  segments := [⟨"users", .entitySet, some "service.user"⟩]
  apiVersion := "beta"
  queryString := "?a=b"
  customOptions := ["a"]
  modifiers := [.one .top (.int 5)]
  headers := [("Prefer", "it's")]
  body := some " \x7b\"a b \" : \"x\\\"y:\"\x7d "
  variableName := "new"

/-- The snippet of the request. -/
def postedSnippet : { t : Text // render javaScript posted = .ok t } :=
  ⟨"const options = \x7b\n\tauthProvider,\n\x7d;\n\nconst client = Client.init(options);\n\n" ++
    "const new_ = \x7ba b: \"x\\\"y:\"\x7d;\n\nlet res = await client.api('/users?a=b')" ++
    "\n\t.version('beta')\n\t.post(\x7buser: new_\x7d);",
    eq_ok_of_toOption (by decide +kernel)⟩

theorem render_javaScript_posted :
    render javaScript posted = .ok postedSnippet.val ∧ posted.method ∈ supportedMethods ∧
      postedSnippet.val = snippetText posted := by
  have hrender := postedSnippet.property
  exact ⟨hrender, render_javaScript hrender⟩

end JavaScript

end CallSnippets
