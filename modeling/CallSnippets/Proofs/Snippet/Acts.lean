import CallSnippets.Proofs.Steps
import CallSnippets.Snippet.Render

/-!
# What a snippet takes

The parts of a snippet are made by acts that may fail: filling in a template, and reading a body as
JSON for numbers that are too long. Which acts a request calls for, and in which order, is known before
any of them is done. The assembly of the snippet fails exactly if one of them does, and then with the
fault of the first that does.

An act may be given what an earlier one has made: the declaration gets the rewritten body, and the call
for a method gets the body under the name of its type. If there is no such text the act is never
reached, and what it is given does not matter.

## Main definitions

* `Slot`, `Grammar.template?`: The places of a grammar for templates.
* `Act`, `Act.fault?`: What may fail, and with what.
* `firstFault?`: The fault of the first act that fails.
* `queryActs`, `bodyActs`, `argumentActs`, `requestActs`, `acts`: The acts that a request calls for.

## Theorems

* `errorOf?_querySection`, `errorOf?_declareBody`, `errorOf?_bodyArgument`, `errorOf?_requestSection`:
  The parts fail with the first fault of their acts.
* `errorOf?_assemble`: The assembly fails with the first fault of its acts.
-/

namespace CallSnippets

/-- The places of a grammar for templates. -/
inductive Slot where
  /-- The call for a header. -/
  | header
  /-- The call for a modifier of a kind. -/
  | modifier (kind : ModifierKind)
  /-- The call for a method. -/
  | verb (method : Text)
  /-- The line of the request. -/
  | request
  /-- The choice of a version. -/
  | version
  /-- The key of a member in a body. -/
  | key
  /-- The declaration of a body. -/
  | body
  /-- A body under the name of its type. -/
  | typedBody
  deriving DecidableEq, Repr

/-- The template in a place of a grammar, if there is one. -/
def Grammar.template? (g : Grammar) : Slot → Option Text
  | .header => some g.headerTemplate
  | .modifier kind => g.modifierTemplates.lookup kind
  | .verb method => g.verbFor? method
  | .request => some g.requestTemplate
  | .version => some g.versionTemplate
  | .key => some g.keyTemplate
  | .body => some g.bodyTemplate
  | .typedBody => some g.typedBodyTemplate

/-- Something that may fail while a snippet is made. -/
inductive Act where
  /-- The template in a place is filled in. -/
  | fill (slot : Slot) (args : Template.Arguments)
  /-- A text is read as JSON. -/
  | readJson (t : Text)

/-- What an act fails with, if it fails. -/
def Act.fault? (g : Grammar) : Act → Option Fault
  | fill slot args => errorOf? (fillOrFault ((g.template? slot).getD []) args)
  | readJson t => jsonFault? t

/-- The fault of the first act that fails. -/
def firstFault? (g : Grammar) (acts : List Act) : Option Fault :=
  acts.findSome? (Act.fault? g)

section

variable (g : Grammar) (r : Request)

/-- The act that writes a header. -/
def headerAct (header : Text × Text) : Act :=
  .fill .header (Template.byPosition [g.escape header.1, g.escape header.2])

/-- The act that writes a modifier. -/
def modifierAct (m : Modifier) : Act :=
  .fill (.modifier m.kind) ⟨[modifierArgument g m], []⟩

/-- The acts that write headers and modifiers. -/
def queryActs : List Act :=
  (shownHeaders g r).map (headerAct g) ++
    if r.hasCustomQuery then [] else (shownModifiers r).map (modifierAct g)

/-- The act that writes a token: only keys are written by a template. -/
def keyAct? : Token → Option Act
  | .key content _ => some (.fill .key (Template.byPosition [Text.trimEnd content]))
  | _ => none

/-- A body as a literal. -/
def literalText (t : Text) : Text :=
  (rewriteKeys g.keyTemplate t).toOption.getD []

/-- The acts that declare a body. -/
def bodyActs : List Act :=
  match r.body with
  | none => []
  | some body =>
    if Text.allBlank body then []
    else
      .readJson (Text.trim body) :: (tokens (Text.trim body)).filterMap keyAct? ++
        [.fill .body (Template.byName [("name", g.safeName r.variableName),
          ("body", literalText g (Text.trim body))])]

/-- The acts that bring a body under the name of its type. -/
def argumentActs : List Act :=
  if !r.hasBody then []
  else
    match r.lastSegment? with
    | none => []
    | some s =>
      if s.isOperation then []
      else
        [.fill .typedBody
          (Template.byName [("type", s.shortTypeName), ("name", g.safeName r.variableName)])]

/-- What the call for a method is given that passes a body on. -/
def passedText : Text :=
  (bodyArgument g r (g.safeName r.variableName)).toOption.getD []

/-- The act that writes the call for the method. -/
def verbAct (argument : Text) : Act :=
  .fill (.verb r.method) (Template.byName [("argument", argument)])

/-- The acts that write the line of the request and the choice of a version. -/
def requestActs : List Act :=
  .fill .request (Template.byName [("path", requestPath r)]) ::
    if g.isPreview r.apiVersion then [.fill .version (Template.byPosition [r.apiVersion])] else []

/-- The acts that a request calls for, in order. -/
def acts : List Act :=
  (if r.method = "GET" then queryActs g r ++ [verbAct r []]
    else if sendsBody r.method then bodyActs g r ++ argumentActs g r ++ [verbAct r (passedText g r)]
    else [verbAct r []]) ++ requestActs g r

end

section

variable {g : Grammar} {r : Request}

theorem firstFault?_append (a b : List Act) :
    firstFault? g (a ++ b) = (firstFault? g a).or (firstFault? g b) :=
  List.findSome?_append

theorem firstFault?_cons (a : Act) (rest : List Act) :
    firstFault? g (a :: rest) = (a.fault? g).or (firstFault? g rest) := by
  rw [firstFault?, List.findSome?_cons]
  cases a.fault? g <;> rfl

theorem firstFault?_singleton (a : Act) : firstFault? g [a] = a.fault? g := by
  rw [firstFault?_cons, firstFault?, List.findSome?_nil, Option.or_none]

/-! ## Queries -/

/-- Texts made from items fail with the first item whose text cannot be made. -/
theorem errorOf?_concatenate {α : Type} {make : α → Except Fault Text} {act : α → Act}
    (h : ∀ a, errorOf? (make a) = (act a).fault? g) (items : List α) :
    errorOf? (concatenate make items) = firstFault? g (items.map act) := by
  induction items with
  | nil => rfl
  | cons a rest ih =>
      rw [concatenate, List.map_cons, firstFault?_cons, ← h a, ← ih]
      refine errorOf?_bind fun first _ => ?_
      cases concatenate make rest <;> rfl

theorem errorOf?_querySection : errorOf? (querySection g r) = firstFault? g (queryActs g r) := by
  have hheaders : errorOf? (headerSection g r) = firstFault? g ((shownHeaders g r).map (headerAct g)) :=
    errorOf?_concatenate (fun _ => rfl) (shownHeaders g r)
  have hmodifiers :
      errorOf? (modifierSection g r) = firstFault? g ((shownModifiers r).map (modifierAct g)) :=
    errorOf?_concatenate (fun _ => rfl) (shownModifiers r)
  rw [querySection, queryActs, firstFault?_append, ← hheaders]
  refine errorOf?_bind fun headers _ => ?_
  cases r.hasCustomQuery with
  | true => rfl
  | false =>
      rw [if_neg (by decide), if_neg (by decide), ← hmodifiers]
      cases modifierSection g r <;> rfl

/-! ## Bodies -/

theorem errorOf?_writeTokens (ts : List Token) :
    (errorOf? (writeTokens g.keyTemplate ts)).map Template.Problem.fault =
      firstFault? g (ts.filterMap keyAct?) := by
  induction ts with
  | nil => rfl
  | cons t rest ih =>
      have hmore : errorOf? (writeTokens g.keyTemplate (t :: rest)) =
          (errorOf? (t.write g.keyTemplate)).or (errorOf? (writeTokens g.keyTemplate rest)) := by
        rw [writeTokens]
        refine errorOf?_bind fun first _ => ?_
        cases writeTokens g.keyTemplate rest <;> rfl
      rw [hmore, Option.map_or, ih]
      cases t with
      | key content blanks =>
          simp only [List.filterMap_cons, keyAct?]
          rw [firstFault?_cons, Act.fault?, fillOrFault, errorOf?_mapError]
          rfl
      | char c => rfl
      | string content => rfl

theorem errorOf?_declareBody :
    errorOf? (declareBody g r.body (g.safeName r.variableName)) = firstFault? g (bodyActs g r) := by
  unfold declareBody bodyActs
  cases r.body with
  | none => rfl
  | some body =>
      simp only
      by_cases hblank : Text.allBlank body = true
      · rw [if_pos hblank, if_pos hblank]
        rfl
      · rw [if_neg hblank, if_neg hblank, List.cons_append, firstFault?_cons, Act.fault?]
        cases hjson : jsonFault? (Text.trim body) with
        | some fault => rfl
        | none =>
            simp only
            rw [Option.none_or, firstFault?_append, firstFault?_singleton, ← errorOf?_writeTokens,
              ← errorOf?_mapError]
            refine errorOf?_bind fun literal hliteral => ?_
            -- The declaration is reached only if the keys could be written, and then it gets that text.
            have htext : literalText g (Text.trim body) = literal := by
              rw [literalText, mapError_eq_ok.mp hliteral]
              rfl
            rw [htext]
            rfl

theorem errorOf?_bodyArgument :
    errorOf? (bodyArgument g r (g.safeName r.variableName)) = firstFault? g (argumentActs g r) := by
  rw [bodyArgument, argumentActs]
  cases r.hasBody with
  | false => rfl
  | true =>
      rw [if_neg (by decide), if_neg (by decide)]
      cases r.lastSegment? with
      | none => rfl
      | some s =>
          simp only
          by_cases hoperation : s.isOperation = true
          · rw [if_pos hoperation, if_pos hoperation]
            rfl
          · rw [if_neg hoperation, if_neg hoperation, firstFault?_singleton]
            rfl

/-! ## Requests -/

theorem errorOf?_verbCall {verb : Text} (hverb : g.verbFor? r.method = some verb) (argument : Text) :
    errorOf? (verbCall verb argument) = (verbAct r argument).fault? g := by
  rw [verbAct, Act.fault?, Grammar.template?, hverb]
  rfl

theorem errorOf?_requestSection : errorOf? (requestSection g r) = firstFault? g (requestActs g r) := by
  rw [requestSection, requestActs, firstFault?_cons]
  refine errorOf?_bind fun line _ => ?_
  by_cases hpreview : g.isPreview r.apiVersion = true
  · rw [if_pos hpreview, if_pos hpreview, firstFault?_singleton]
    rw [Act.fault?, Grammar.template?, Option.getD_some]
    cases fillOrFault g.versionTemplate (Template.byPosition [r.apiVersion]) <;> rfl
  · rw [if_neg hpreview, if_neg hpreview]
    rfl

theorem errorOf?_declarationAndCalls {verb : Text} (hverb : g.verbFor? r.method = some verb) :
    errorOf? (declarationAndCalls g r verb) = firstFault? g
      (if r.method = "GET" then queryActs g r ++ [verbAct r []]
        else if sendsBody r.method then bodyActs g r ++ argumentActs g r ++ [verbAct r (passedText g r)]
        else [verbAct r []]) := by
  rw [declarationAndCalls]
  by_cases hget : r.method = "GET"
  · rw [if_pos hget, if_pos hget, firstFault?_append, firstFault?_singleton, ← errorOf?_verbCall hverb,
      ← errorOf?_querySection]
    refine errorOf?_bind fun query _ => ?_
    cases verbCall verb [] <;> rfl
  · rw [if_neg hget, if_neg hget]
    by_cases hsends : sendsBody r.method = true
    · rw [if_pos hsends, if_pos hsends, firstFault?_append, firstFault?_append, firstFault?_singleton,
        Option.or_assoc, ← errorOf?_verbCall hverb, ← errorOf?_declareBody, ← errorOf?_bodyArgument]
      refine errorOf?_bind fun declaration _ => ?_
      refine errorOf?_bind fun argument hargument => ?_
      -- The call is reached only if the argument could be made, and then it gets that text.
      have htext : passedText g r = argument := by
        rw [passedText, hargument]
        rfl
      rw [htext]
      cases verbCall verb argument <;> rfl
    · rw [if_neg hsends, if_neg hsends, firstFault?_singleton, ← errorOf?_verbCall hverb]
      cases verbCall verb [] <;> rfl

/-- The assembly fails with the first fault of the acts that the request calls for. -/
theorem errorOf?_assemble {verb : Text} (hverb : g.verbFor? r.method = some verb) :
    errorOf? (assemble g r verb) = firstFault? g (acts g r) := by
  rw [assemble, acts, firstFault?_append, ← errorOf?_declarationAndCalls hverb]
  refine errorOf?_bind fun parts _ => ?_
  rw [← errorOf?_requestSection]
  cases requestSection g r <;> rfl

end

end CallSnippets
