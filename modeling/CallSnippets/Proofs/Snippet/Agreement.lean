import CallSnippets.Proofs.Snippet.Outcome

/-!
# What a result depends on

Two requests that agree in what their method looks at have the same result, be it a snippet or a
failure, in every language. Every method looks at the path, at the version, and at whether the query
has options of its own, with which the query goes onto the path. Beside this a method that reads looks at
headers and modifiers, and at the modifiers only if they are not on the path already; a method that sends
a body looks at the body without the blanks around it, and if there is any at the name of its variable
and at what is addressed; and any other method looks at nothing else. That there is a body may be looked
at for every method, but only if the language wants it.

So nothing of a request leaks into a snippet that has no use for it, nor into the words of a failure.

## Main definitions

* `Request.sentBody?`: The body that is sent.
* `Request.addressed?`: What is told of the last segment.
* `Agree`: Two requests agree in what their method looks at.

## Theorems

* `querySection_agree`, `declareBody_agree`, `bodyArgument_agree`, `requestSection_agree`: The parts.
* `assemble_agree`: The parts put together.
* `generate_agree`: Requests that agree have the same result.
-/

namespace CallSnippets

namespace Request

/-- The body without the blanks around it, if there is more. -/
def sentBody? (r : Request) : Option Text :=
  match r.body with
  | none => none
  | some body => if Text.allBlank body then none else some (Text.trim body)

/-- Whether the last segment is an operation, and the name of its type. -/
def addressed? (r : Request) : Option (Bool × Text) :=
  r.lastSegment?.map fun s => (s.isOperation, s.shortTypeName)

theorem hasBody_eq (r : Request) : r.hasBody = r.sentBody?.isSome := by
  unfold hasBody sentBody?
  cases r.body with
  | none => rfl
  | some body =>
      simp only
      cases Text.allBlank body <;> rfl

end Request

/-- Two requests agree in what their method looks at, in a language. -/
structure Agree (g : Grammar) (a b : Request) : Prop where
  /-- The method is the same. -/
  method : a.method = b.method
  /-- The path is the same. -/
  path : a.path = b.path
  /-- The version is the same. -/
  version : a.apiVersion = b.apiVersion
  /-- Both have options of their own, or neither has. -/
  options : a.customOptions = [] ↔ b.customOptions = []
  /-- The query is the same if there are such options. -/
  query : a.customOptions ≠ [] → a.queryString = b.queryString
  /-- The headers are the same for a method that reads. -/
  headers : a.method = "GET" → a.headers = b.headers
  /-- So are the modifiers, in whatever order, if there are no other options. -/
  modifiers : a.method = "GET" → a.customOptions = [] →
    ∀ kind, a.modifiers.find? kind = b.modifiers.find? kind
  /-- The body that is sent is the same for a method that sends one. -/
  sent : sendsBody a.method = true → a.sentBody? = b.sentBody?
  /-- So is the name of its variable, if there is one. -/
  name : sendsBody a.method = true → a.sentBody? ≠ none → a.variableName = b.variableName
  /-- So is what is addressed, if there is a body. -/
  addressed : sendsBody a.method = true → a.sentBody? ≠ none → a.addressed? = b.addressed?
  /-- For any other method both have a body or neither has, if the language wants one. -/
  body : sendsBody a.method = false → a.method ∈ g.bodyMethods → a.hasBody = b.hasBody

/-! ## Bodies -/

section

variable {g : Grammar} {r : Request} {t name : Text}

theorem declareBody_none (h : r.sentBody? = none) : declareBody g r.body name = .ok [] := by
  unfold Request.sentBody? at h
  unfold declareBody
  cases hbody : r.body with
  | none => rfl
  | some body =>
      simp only [hbody] at h ⊢
      split_ifs at h with hblank
      rw [if_pos hblank]

/-- The declaration is made from the body that is sent. -/
theorem declareBody_some (h : r.sentBody? = some t) :
    declareBody g r.body name =
      (match jsonFault? t with
      | some fault => .error fault
      | none => do
        let literal ← (rewriteKeys g.keyTemplate t).mapError Template.Problem.fault
        fillOrFault g.bodyTemplate (Template.byName [("name", name), ("body", literal)])) := by
  unfold Request.sentBody? at h
  unfold declareBody
  cases hbody : r.body with
  | none => simp only [hbody, reduceCtorEq] at h
  | some body =>
      simp only [hbody] at h ⊢
      split_ifs at h with hblank
      rewrite [if_neg hblank, Option.some.inj h]
      rfl

theorem bodyArgument_addressed :
    bodyArgument g r name =
      if !r.hasBody then .ok []
      else
        match r.addressed? with
        | none => .ok name
        | some (isOperation, typeName) =>
          if isOperation then .ok name
          else fillOrFault g.typedBodyTemplate (Template.byName [("type", typeName), ("name", name)]) := by
  unfold bodyArgument Request.addressed?
  cases r.lastSegment? <;> rfl

end

/-! ## Parts -/

section

variable {g : Grammar} {a b : Request} (h : Agree g a b)

include h

theorem Agree.hasCustomQuery : a.hasCustomQuery = b.hasCustomQuery := by
  have hempty : a.customOptions.isEmpty = b.customOptions.isEmpty := by
    rw [Bool.eq_iff_iff, List.isEmpty_iff, List.isEmpty_iff]
    exact h.options
  rw [Request.hasCustomQuery, Request.hasCustomQuery, hempty]

theorem Agree.lacksBody :
    (g.requiresBody a.method && !a.hasBody) = (g.requiresBody b.method && !b.hasBody) := by
  rw [← h.method]
  cases hrequires : g.requiresBody a.method with
  | false => rfl
  | true =>
      -- A method that sends a body looks at it, and any other method looks for it if it has to.
      have hbody : a.hasBody = b.hasBody := by
        cases hsends : sendsBody a.method with
        | true => rw [Request.hasBody_eq, Request.hasBody_eq, h.sent hsends]
        | false => exact h.body hsends (List.contains_iff_mem.mp hrequires)
      rw [hbody]

theorem headerSection_agree (hget : a.method = "GET") : headerSection g a = headerSection g b := by
  rw [headerSection, headerSection, shownHeaders, shownHeaders, h.headers hget]

theorem modifierSection_agree (hget : a.method = "GET") (hcustom : a.customOptions = []) :
    modifierSection g a = modifierSection g b := by
  -- The modifiers are taken kind by kind, so their order is not seen.
  have hfind : (fun kind => a.modifiers.find? kind) = fun kind => b.modifiers.find? kind :=
    funext (h.modifiers hget hcustom)
  rw [modifierSection, modifierSection, shownModifiers, shownModifiers, hfind]

theorem querySection_agree (hget : a.method = "GET") : querySection g a = querySection g b := by
  rw [querySection, querySection, headerSection_agree h hget, ← h.hasCustomQuery]
  cases hcustom : a.hasCustomQuery with
  | true => simp only [if_true]
  | false =>
      have hnone : a.customOptions = [] := hasCustomQuery_eq_false.mp hcustom
      rw [modifierSection_agree h hget hnone]

theorem declareBody_agree (hsends : sendsBody a.method = true) :
    declareBody g a.body (g.safeName a.variableName) =
      declareBody g b.body (g.safeName b.variableName) := by
  have hsent := h.sent hsends
  cases ha : a.sentBody? with
  | none =>
      rw [ha] at hsent
      rw [declareBody_none ha, declareBody_none hsent.symm]
  | some t =>
      have hname := h.name hsends (by rw [ha]; exact Option.some_ne_none t)
      rw [ha] at hsent
      rw [declareBody_some ha, declareBody_some hsent.symm, hname]

theorem bodyArgument_agree (hsends : sendsBody a.method = true) :
    bodyArgument g a (g.safeName a.variableName) =
      bodyArgument g b (g.safeName b.variableName) := by
  rw [bodyArgument_addressed, bodyArgument_addressed, Request.hasBody_eq, Request.hasBody_eq,
    ← h.sent hsends]
  cases ha : a.sentBody? with
  | none => rfl
  | some t =>
      have hsome : a.sentBody? ≠ none := by
        rw [ha]
        exact Option.some_ne_none t
      rw [h.name hsends hsome, h.addressed hsends hsome]

theorem requestSection_agree : requestSection g a = requestSection g b := by
  have hpath : requestPath a = requestPath b := by
    rw [requestPath, requestPath, ← h.hasCustomQuery, h.path]
    by_cases hcustom : a.hasCustomQuery = true
    · have hquery : a.customOptions ≠ [] := by
        intro hnone
        rw [hasCustomQuery_eq_false.mpr hnone] at hcustom
        exact absurd hcustom Bool.false_ne_true
      rw [h.query hquery]
    · rw [if_neg hcustom, if_neg hcustom]
  rw [requestSection, requestSection, hpath, h.version]

theorem declarationAndCalls_agree (verb : Text) :
    declarationAndCalls g a verb = declarationAndCalls g b verb := by
  rw [declarationAndCalls, declarationAndCalls, ← h.method]
  by_cases hget : a.method = "GET"
  · rw [if_pos hget, if_pos hget, querySection_agree h hget]
  · rw [if_neg hget, if_neg hget]
    by_cases hsends : sendsBody a.method = true
    · rw [if_pos hsends, if_pos hsends, declareBody_agree h hsends, bodyArgument_agree h hsends]
    · rw [if_neg hsends, if_neg hsends]

theorem assemble_agree (verb : Text) : assemble g a verb = assemble g b verb := by
  rw [assemble, assemble, declarationAndCalls_agree h, requestSection_agree h]

theorem attempt_agree : attempt g a = attempt g b := by
  rw [attempt, attempt, ← h.method]
  cases g.verbFor? a.method with
  | none => rfl
  | some verb =>
      have hlacks := h.lacksBody
      rw [← h.method] at hlacks
      simp only [hlacks, assemble_agree h]

/-- Requests that agree in what their method looks at have the same result. -/
theorem generate_agree : generate g a = generate g b := by
  rw [generate, generate, render, render, attempt_agree h]

end

/-- A request that reads. -/
def listed : Request where
  method := "GET"
  path := "/me/messages"
  segments := [⟨"messages", .navigationProperty, none⟩]
  apiVersion := "beta"
  queryString := []
  customOptions := []
  modifiers := [.one .top (.int 5), .many .filter ["isRead eq false"]]
  headers := [("Prefer", "it's")]
  body := none
  variableName := "res"

/-- The same with the modifiers in another order, and with all that a request that reads has no use for. -/
def listedAgain : Request :=
  { listed with
    segments := []
    queryString := "?$top=5"
    modifiers := [.many .filter ["isRead eq false"], .one .top (.int 5)]
    body := some "no body"
    variableName := "messages" }

theorem agree_listed : Agree javaScript listed listedAgain where
  method := rfl
  path := rfl
  version := rfl
  options := Iff.rfl
  query := fun h => absurd rfl h
  headers _ := rfl
  modifiers _ _ kind := by
    cases kind with
    | many k => cases k <;> rfl
    | one k => cases k <;> rfl
  sent := fun h => absurd h (by decide)
  name := fun h => absurd h (by decide)
  addressed := fun h => absurd h (by decide)
  body _ h := absurd h (by decide)

theorem generate_agree_listed :
    Agree javaScript listed listedAgain ∧ listed ≠ listedAgain ∧
      generate javaScript listed = generate javaScript listedAgain :=
  ⟨agree_listed, by decide, generate_agree agree_listed⟩

end CallSnippets
