import CallSnippets.Proofs.Snippet.Flawless
import Mathlib.Data.List.Basic

/-!
# Variables of a snippet

A snippet declares two variables before its request, one for the response, and one for a body if there
is a body to send. It is nothing but a row of these declarations, so their names are the names that its
statements declare. The variable for the body is named by the request, and only reserved words are kept
from being its name. Nothing keeps it from being one of the names that every snippet declares: then the
snippet declares one variable twice, and this is the only way that it can.

## Main definitions

* `takenNames`: The names that every snippet declares.
* `declarations`: The declarations of a snippet.

## Theorems

* `snippetText_eq`: A snippet is the row of its declarations.
* `isPlain_declarations`: The declarations of a request that keeps its parts in their places.
* `nodup_declarations`: When the names are distinct.
* `declaredNames_javaScript`: The names that a snippet declares, and when they are distinct.
* `declaredNames_javaScript_answered`: A snippet that declares one variable twice.
-/

namespace CallSnippets

namespace JavaScript

/-- The names that every snippet declares. -/
def takenNames : List Text :=
  ["options", "client", "res"]

/-- A body is declared for the request. -/
def declaresBody (r : Request) : Bool :=
  sendsBody r.method && r.hasBody

/-- The body that is sent. -/
def bodyDeclaration (r : Request) : Declaration :=
  ⟨.fixed, variableText r, unquoted (Text.trim (r.body.getD []))⟩

/-- The response that is awaited. The end mark of its calls is the one of the declaration. -/
def responseDeclaration (r : Request) : Declaration :=
  ⟨.changing, "res", "await client.api('" ++ pathText r ++ "')" ++ versionText r ++
    (callsText r).dropLast⟩

/-- The declarations of a snippet, in their order. -/
def declarations (r : Request) : List Declaration :=
  [optionsDeclaration, clientDeclaration] ++ (if declaresBody r then [bodyDeclaration r] else []) ++
    [responseDeclaration r]

/-! ## The row -/

theorem getLast?_callsText (r : Request) : (callsText r).getLast? = some endMark := by
  have hlast : ∀ {start stop : Text}, stop.getLast? = some endMark →
      (start ++ stop).getLast? = some endMark := fun h => by
    rw [List.getLast?_append, h, Option.some_or]
  rw [callsText]
  split_ifs with hget
  · exact hlast (by decide)
  · rw [verbText]
    split_ifs
    · exact hlast (by decide)
    · exact hlast (by decide)
    · exact hlast (by decide)
    · decide

theorem responseDeclaration_text (r : Request) :
    (responseDeclaration r).text = requestText r ++ callsText r := by
  have hcalls : (callsText r).dropLast ++ [endMark] = callsText r :=
    List.dropLast_append_getLast? endMark (getLast?_callsText r)
  have hstart : ("let res = await client.api('" : Text) =
      Keyword.changing.text ++ " " ++ ("res" ++ " = " ++ "await client.api('") := by decide
  rw [Declaration.text, Declaration.phrase, Declaration.setting, responseDeclaration, requestText,
    hstart]
  conv_rhs => rw [← hcalls]
  simp only [List.append_assoc]

theorem declarationText_blank {r : Request} (h : r.hasBody = false) : declarationText r = [] := by
  rw [Request.hasBody] at h
  rw [declarationText]
  cases hbody : r.body with
  | none => rfl
  | some body =>
      simp only [hbody, Bool.not_eq_false'] at h
      simp only [if_pos h]

theorem declarationText_body {r : Request} (h : r.hasBody = true) :
    declarationText r = (bodyDeclaration r).text ++ blankLine := by
  rcases hasBody_iff.mp h with ⟨body, hbody, hblank⟩
  have hend : (";\n\n" : Text) = [endMark] ++ blankLine := by decide
  simp only [declarationText, bodyDeclaration, hbody, hblank, Bool.false_eq_true, if_false, hend,
    Option.getD_some, Declaration.text, Declaration.phrase, Declaration.setting, List.append_assoc]
  rfl

theorem declarationText_eq (r : Request) :
    (if sendsBody r.method then declarationText r else []) =
      (if declaresBody r then (bodyDeclaration r).text ++ blankLine else []) := by
  unfold declaresBody
  cases sendsBody r.method with
  | false => rfl
  | true =>
      cases hhas : r.hasBody with
      | false => exact declarationText_blank hhas
      | true => exact declarationText_body hhas

/-- A snippet is the row of its declarations. -/
theorem snippetText_eq (r : Request) :
    snippetText r = Text.join blankLine ((declarations r).map Declaration.text) := by
  have hdeclaration := declarationText_eq r
  simp only [sendsBody_iff] at hdeclaration
  rw [snippetText, preambleText_eq, hdeclaration, ← responseDeclaration_text, declarations]
  cases declaresBody r with
  | false => simp [Text.join]
  | true => simp [Text.join]

/-! ## Declarations that keep their places -/

section

variable {r : Request} (hr : LocallyClosed r)

include hr

theorem isPlain_bodyDeclaration (hdeclares : declaresBody r = true)
    (hname : ∀ c ∈ r.variableName, isQuiet c = true ∧ stopsName c = false) :
    (bodyDeclaration r).IsPlain where
  name := forall_mem_variableText hname (by decide)
  value := by
    rw [declaresBody, Bool.and_eq_true] at hdeclares
    rcases hasBody_iff.mp hdeclares.2 with ⟨body, hbody, hblank⟩
    rw [bodyDeclaration, hbody]
    exact phrase_literal hr hdeclares.1 hbody hblank

theorem isPlain_responseDeclaration : (responseDeclaration r).IsPlain where
  name := by
    have hname : ∀ c ∈ ("res" : Text), isQuiet c = true ∧ stopsName c = false := by decide
    exact hname
  value := by
    rcases statement_callsText hr with ⟨calls, hcalls, hphrase⟩
    rw [responseDeclaration, hcalls, List.dropLast_concat]
    exact phrase_append
      (phrase_append
        (phrase_quotedCall "await client.api" (by decide) (by decide) (inside_plain hr.path))
        phrase_versionText)
      hphrase

theorem isPlain_declarations (hname : declaresBody r = true →
    ∀ c ∈ r.variableName, isQuiet c = true ∧ stopsName c = false) :
    ∀ d ∈ declarations r, d.IsPlain := by
  have hbody : ∀ d ∈ (if declaresBody r then [bodyDeclaration r] else []), d.IsPlain := by
    split_ifs with hdeclares
    · exact List.forall_mem_singleton.mpr (isPlain_bodyDeclaration hr hdeclares (hname hdeclares))
    · exact fun d hd => absurd hd List.not_mem_nil
  rw [declarations, List.forall_mem_append, List.forall_mem_append]
  refine ⟨⟨?_, hbody⟩, List.forall_mem_singleton.mpr (isPlain_responseDeclaration hr)⟩
  rw [List.forall_mem_cons, List.forall_mem_singleton]
  exact ⟨isPlain_optionsDeclaration, isPlain_clientDeclaration⟩

end

/-! ## Names -/

theorem variableText_mem_takenNames {r : Request} :
    variableText r ∈ takenNames ↔ r.variableName ∈ takenNames := by
  rw [variableText]
  split_ifs with hreserved
  -- No name that is taken is reserved, and none ends in what is added to a reserved one.
  · have hnames : ∀ name ∈ takenNames,
        javaScriptReserved.contains name = false ∧ name.getLast? ≠ some (.char '_') := by decide
    constructor
    · intro h
      refine absurd ?_ (hnames _ h).2
      rw [List.getLast?_append]
      rfl
    · intro h
      rw [(hnames _ h).1] at hreserved
      exact absurd hreserved Bool.false_ne_true
  · rfl

/-- The names are distinct unless the variable for a body has one of the other names. -/
theorem nodup_declarations (r : Request) :
    ((declarations r).map Declaration.name).Nodup ↔
      (declaresBody r = true → r.variableName ∉ takenNames) := by
  have htaken : takenNames.Nodup := by decide
  rw [← variableText_mem_takenNames, declarations]
  cases declaresBody r with
  | false => exact ⟨fun _ h => absurd h Bool.false_ne_true, fun _ => htaken⟩
  | true =>
      -- The variable for the body stands among the names that are taken.
      have hperm : ((["options", "client"] : List Text) ++ variableText r :: ["res"]).Perm
          (variableText r :: takenNames) := List.perm_middle
      have hnodup := hperm.nodup_iff.trans List.nodup_cons
      exact hnodup.trans ⟨fun h _ => h.1, fun h => ⟨h rfl, htaken⟩⟩

/-- The names that a snippet declares. A snippet is the row of its declarations, and its statements
    declare the names of that row if its parts keep their places. The names are distinct exactly if no body
    is declared under a name that every snippet declares. -/
theorem declaredNames_javaScript {r : Request} {t : Text} (h : render javaScript r = .ok t) :
    t = Text.join blankLine ((declarations r).map Declaration.text) ∧
      (LocallyClosed r →
        (declaresBody r = true → ∀ c ∈ r.variableName, isQuiet c = true ∧ stopsName c = false) →
          declaredNames t = (declarations r).map Declaration.name) ∧
      (((declarations r).map Declaration.name).Nodup ↔
        (declaresBody r = true → r.variableName ∉ takenNames)) := by
  rcases render_eq_ok.mp h with ⟨verb, hverb, _, hassemble⟩
  have htext : t = Text.join blankLine ((declarations r).map Declaration.text) := by
    rw [assemble_eq hverb hassemble, snippetText_eq]
  refine ⟨htext, fun hr hname => ?_, nodup_declarations r⟩
  rw [htext]
  exact declaredNames_join (isPlain_declarations hr hname)

theorem declaredNames_javaScript_posted :
    declaredNames postedSnippet.val = ["options", "client", "new_", "res"] ∧
      (declaredNames postedSnippet.val).Nodup := by
  rcases declaredNames_javaScript postedSnippet.property with ⟨_, hnames, hdistinct⟩
  have hposted := hnames locallyClosed_posted (by decide)
  rw [hposted]
  exact ⟨by decide, hdistinct.mpr (by decide)⟩

/-- A request that is posted with a body under the name that the response has. -/
def answered : Request where
  method := "POST"
  path := "/me/events"
  segments := []
  apiVersion := "v1.0"
  queryString := []
  customOptions := []
  modifiers := []
  headers := []
  body := some "\x7b\"a\":1\x7d"
  variableName := "res"

/-- The snippet of the request. -/
def answeredSnippet : { t : Text // render javaScript answered = .ok t } :=
  ⟨"const options = \x7b\n\tauthProvider,\n\x7d;\n\nconst client = Client.init(options);\n\n" ++
    "const res = \x7ba:1\x7d;\n\nlet res = await client.api('/me/events')\n\t.post(res);",
    eq_ok_of_toOption (by decide +kernel)⟩

/-- One variable is declared twice. -/
theorem declaredNames_javaScript_answered :
    render javaScript answered = .ok answeredSnippet.val ∧
      declaredNames answeredSnippet.val = ["options", "client", "res", "res"] ∧
        ¬(declaredNames answeredSnippet.val).Nodup := by
  have hnames : declaredNames answeredSnippet.val = ["options", "client", "res", "res"] := by
    decide +kernel
  refine ⟨answeredSnippet.property, hnames, ?_⟩
  rw [hnames]
  decide

end JavaScript

end CallSnippets
