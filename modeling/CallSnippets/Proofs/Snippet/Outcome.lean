import CallSnippets.Grammar.JavaScript
import CallSnippets.Grammar.Record
import CallSnippets.Proofs.Snippet.Templates
import Mathlib.Tactic.SplitIfs

/-!
# What comes of a request

A request is answered by a snippet or by one failure, and which of the two it is can be told from the
request and the grammar without making the snippet. The method is looked at first, then the body, and
only then the acts that the request calls for. Every failure has one of three causes accordingly, and
none of them hides another: a fault of a template is told only if the request has passed both checks,
and it is told as it arose.

The statements hold for every grammar, with the one exception that the usual methods are supported.
This takes a grammar that is complete, as every grammar is that is read from a file.

## Main definitions

* `LacksBody`: The request has no body, and its method needs one.
* `Answered`: Everything that is known of how a request is answered.

## Theorems

* `attempt_cases`: The three ways an attempt can go.
* `render_eq_ok`: When there is a snippet.
* `generate_answered`: How a request is answered in a complete grammar.
-/

namespace CallSnippets

/-- The method needs a body, and the request has none but blanks. -/
def LacksBody (g : Grammar) (r : Request) : Prop :=
  r.method ∈ g.bodyMethods ∧ ∀ body, r.body = some body → Text.allBlank body = true

section

variable {g : Grammar} {r : Request}

theorem lacksBody_iff : (g.requiresBody r.method && !r.hasBody) = true ↔ LacksBody g r := by
  have hbody : (!r.hasBody) = true ↔ ∀ body, r.body = some body → Text.allBlank body = true := by
    rw [Request.hasBody]
    cases r.body with
    | none => simp only [Bool.not_false, reduceCtorEq, false_imp_iff, implies_true]
    | some body => simp only [Bool.not_not, Option.some.injEq, forall_eq']
  rw [Bool.and_eq_true, hbody, LacksBody, Grammar.requiresBody, List.contains_iff_mem]

theorem hasCustomQuery_eq_false : r.hasCustomQuery = false ↔ r.customOptions = [] := by
  rw [Request.hasCustomQuery, Bool.not_eq_false', List.isEmpty_iff]

/-- The three ways an attempt can go, by the checks on the request. -/
theorem attempt_cases (g : Grammar) (r : Request) :
    (g.verbFor? r.method = none ∧
        attempt g r = .error (.failure (.unsupportedMethod r.method g.name))) ∨
      (∃ verb, g.verbFor? r.method = some verb ∧ LacksBody g r ∧
        attempt g r = .error (.failure (.missingBody r.method g.name))) ∨
      ∃ verb, g.verbFor? r.method = some verb ∧ ¬LacksBody g r ∧
        attempt g r = (assemble g r verb).mapError .fault := by
  rw [attempt, ← lacksBody_iff]
  cases hverb : g.verbFor? r.method with
  | none => exact .inl ⟨rfl, rfl⟩
  | some verb =>
      refine .inr ?_
      simp only
      by_cases hlacks : (g.requiresBody r.method && !r.hasBody) = true
      · rw [if_pos hlacks]
        exact .inl ⟨verb, rfl, hlacks, rfl⟩
      · rw [if_neg hlacks]
        exact .inr ⟨verb, rfl, hlacks, rfl⟩

/-- There is a snippet if the request passes the checks and its parts can be made. -/
theorem render_eq_ok {t : Text} :
    render g r = .ok t ↔
      ∃ verb, g.verbFor? r.method = some verb ∧ ¬LacksBody g r ∧ assemble g r verb = .ok t := by
  rw [render]
  rcases attempt_cases g r with ⟨hverb, h⟩ | ⟨verb, hverb, hlacks, h⟩ | ⟨verb, hverb, hlacks, h⟩
  · simp only [h, hverb, mapError_error, reduceCtorEq, false_and, exists_false]
  · simp only [h, hlacks, mapError_error, reduceCtorEq, not_true_eq_false, false_and, and_false,
      exists_false]
  · simp only [h, mapError_eq_ok, hverb, hlacks, not_false_eq_true, true_and, Option.some.injEq,
      exists_eq_left']

end

/-! ## Complete grammars -/

/-- A grammar is complete if it lacks nothing, and it is not changed by finding this out. -/
theorem complete_eq_ok {g g' : Grammar} :
    g.complete = .ok g' ↔ g.missingKinds = [] ∧ g.missingMethods = [] ∧ g = g' := by
  rw [Grammar.complete, ← List.isEmpty_iff, ← List.isEmpty_iff]
  cases g.missingKinds.isEmpty with
  | false => simp [Reading.fail]
  | true =>
      cases g.missingMethods.isEmpty with
      | false => simp [Reading.fail]
      | true => simp

/-- The usual methods are supported by a complete grammar. -/
theorem verbFor?_of_complete {g : Grammar} (hg : g.complete = .ok g) {method : Text}
    (hmethod : method ∈ supportedMethods) : g.verbFor? method ≠ none := by
  intro hverb
  -- A usual method without a call would be missing, and nothing is.
  have hmissing : method ∈ g.missingMethods :=
    List.mem_filter.mpr ⟨hmethod, by rw [hverb]; rfl⟩
  rw [(complete_eq_ok.mp hg).2.1] at hmissing
  exact absurd hmissing List.not_mem_nil

/-! ## What comes of a request -/

/-- Everything that is known of how a request is answered. -/
structure Answered (g : Grammar) (r : Request) : Prop where
  /-- There is either a snippet or a failure, and unwrapping gives back the one that there is. -/
  either : (∃ t, generate g r = ⟨g.name, some t, none⟩ ∧ (generate g r).unwrap = .ok t) ∨
    ∃ failure, generate g r = ⟨g.name, none, some failure⟩ ∧
      (generate g r).unwrap = .error failure
  /-- The method is not supported if the grammar has no call for it. -/
  unsupported : (generate g r).failureKind? = some .unsupportedMethod ↔ g.verbFor? r.method = none
  /-- The usual methods are supported. -/
  supported : r.method ∈ supportedMethods →
    (generate g r).failureKind? ≠ some .unsupportedMethod
  /-- The body is missing if a method that there is a call for lacks it. -/
  missing : (generate g r).failureKind? = some .missingBody ↔
    g.verbFor? r.method ≠ none ∧ LacksBody g r
  /-- The assembly fails if an act does that the request calls for. -/
  assembly : (generate g r).failureKind? = some .assembly ↔
    g.verbFor? r.method ≠ none ∧ ¬LacksBody g r ∧ ∃ fault, firstFault? g (acts g r) = some fault
  /-- Such a failure has the words of the first fault. -/
  words : ∀ failure, (generate g r).failure? = some failure → failure.kind = .assembly →
    ∃ fault, firstFault? g (acts g r) = some fault ∧ failure.message = fault.message
  /-- There is a snippet if nothing of this is the case. -/
  made : (generate g r).failure? = none ↔
    g.verbFor? r.method ≠ none ∧ ¬LacksBody g r ∧ firstFault? g (acts g r) = none
  /-- Templates do not matter that the request does not use. -/
  unused : ∀ g' : Grammar, g.rules = g'.rules → SameTemplates g g' (acts g r) →
    generate g' r = generate g r

instance (g : Grammar) (r : Request) : Decidable (LacksBody g r) :=
  decidable_of_iff _ lacksBody_iff

/-- The failure that comes of a request, by the checks and the first fault of its acts. -/
theorem failure?_generate (g : Grammar) (r : Request) :
    (generate g r).failure? =
      if g.verbFor? r.method = none then some (.unsupportedMethod r.method g.name)
      else if LacksBody g r then some (.missingBody r.method g.name)
      else (firstFault? g (acts g r)).map .assembly := by
  rw [generate, render]
  rcases attempt_cases g r with ⟨hverb, h⟩ | ⟨verb, hverb, hlacks, h⟩ | ⟨verb, hverb, hlacks, h⟩
  · rw [h, if_pos hverb]
    rfl
  · rw [h, if_neg (by rw [hverb]; exact Option.some_ne_none verb), if_pos hlacks]
    rfl
  -- Past both checks the failure is the one of the assembly, as it arose.
  · rw [h, if_neg (by rw [hverb]; exact Option.some_ne_none verb), if_neg hlacks,
      ← errorOf?_assemble hverb]
    cases assemble g r verb <;> rfl

theorem failureKind?_generate (g : Grammar) (r : Request) :
    (generate g r).failureKind? =
      if g.verbFor? r.method = none then some .unsupportedMethod
      else if LacksBody g r then some .missingBody
      else (firstFault? g (acts g r)).map fun _ => .assembly := by
  rw [SnippetResult.failureKind?, failure?_generate]
  split_ifs
  · rfl
  · rfl
  · rw [Option.map_map]
    rfl

theorem generate_congr {g g' : Grammar} {r : Request} (hrules : g.rules = g'.rules)
    (h : SameTemplates g g' (acts g r)) : generate g' r = generate g r := by
  have hname : g.name = g'.name := eq_of_rules Grammar.name (fun _ => rfl) hrules
  have hbody : g.requiresBody r.method = g'.requiresBody r.method :=
    eq_of_rules (fun rules => rules.requiresBody r.method) (fun _ => rfl) hrules
  rw [generate, generate, render, render, attempt, attempt, ← hname, ← hbody, ← verbFor?_congr h]
  cases g.verbFor? r.method with
  | none => rfl
  | some verb =>
      simp only
      rw [assemble_congr hrules h verb]

/-- How a request is answered in a complete grammar. -/
theorem generate_answered {g : Grammar} (hg : g.complete = .ok g) (r : Request) : Answered g r := by
  constructor
  case either =>
    rw [unwrap_generate, generate]
    cases render g r with
    | ok t => exact .inl ⟨t, rfl, rfl⟩
    | error failure => exact .inr ⟨failure, rfl, rfl⟩
  case unsupported =>
    rw [failureKind?_generate]
    split_ifs with hverb hlacks <;> simp [hverb]
  case supported =>
    intro hmethod
    rw [failureKind?_generate, if_neg (verbFor?_of_complete hg hmethod)]
    split_ifs <;> simp
  case missing =>
    rw [failureKind?_generate]
    split_ifs with hverb hlacks
    · simp [hverb]
    · simp [hverb, hlacks]
    · simp [hverb, hlacks]
  case assembly =>
    rw [failureKind?_generate]
    split_ifs with hverb hlacks
    · simp [hverb]
    · simp [hverb, hlacks]
    · simp [hverb, hlacks]
  case words =>
    intro failure hfailure hkind
    rw [failure?_generate] at hfailure
    split_ifs at hfailure with hverb hlacks
    · rw [← Option.some.inj hfailure, SnippetFailure.kind] at hkind
      exact absurd hkind (by decide)
    · rw [← Option.some.inj hfailure, SnippetFailure.kind] at hkind
      exact absurd hkind (by decide)
    · rcases Option.map_eq_some_iff.mp hfailure with ⟨fault, hfault, rfl⟩
      exact ⟨fault, hfault, rfl⟩
  case made =>
    rw [failure?_generate]
    split_ifs with hverb hlacks
    · simp [hverb]
    · simp [hverb, hlacks]
    · simp [hverb, hlacks]
  case unused => exact fun g' => generate_congr

/-- JavaScript with a template for the version that ends in the middle of a field. -/
def brokenVersion : Grammar :=
  { javaScript with versionTemplate := "\x7b" }

/-- A request in a version of the service. -/
def versioned (version : Text) : Request where
  method := "GET"
  path := "/me"
  segments := []
  apiVersion := version
  queryString := []
  customOptions := []
  modifiers := []
  headers := []
  body := none
  variableName := []

theorem generate_answered_brokenVersion :
    brokenVersion.complete = .ok brokenVersion ∧ javaScript.complete = .ok javaScript ∧
      (generate brokenVersion (versioned "beta")).failureKind? = some .assembly ∧
      generate brokenVersion (versioned "v1.0") = generate javaScript (versioned "v1.0") := by
  have hbroken : brokenVersion.complete = .ok brokenVersion :=
    complete_eq_ok.mpr ⟨by decide +kernel, by decide +kernel, rfl⟩
  have hjavaScript : javaScript.complete = .ok javaScript :=
    complete_eq_ok.mpr ⟨by decide +kernel, by decide +kernel, rfl⟩
  refine ⟨hbroken, hjavaScript, ?_, ?_⟩
  · have hfault : (firstFault? brokenVersion (acts brokenVersion (versioned "beta"))).isSome = true := by
      decide +kernel
    exact (generate_answered hbroken (versioned "beta")).assembly.mpr
      ⟨by decide +kernel, by decide +kernel, Option.isSome_iff_exists.mp hfault⟩
  · refine (generate_answered hjavaScript (versioned "v1.0")).unused brokenVersion rfl ?_
    intro slot args hact
    -- The template for the version is not filled in, since the version is not the one to be chosen.
    have hversion : ∀ a ∈ acts javaScript (versioned "v1.0"), ∀ args, a ≠ .fill .version args := by
      have hacts : acts javaScript (versioned "v1.0") =
          [verbAct (versioned "v1.0") [], .fill .request (Template.byName [("path", "/me")])] := rfl
      intro a ha args hfill
      rw [hacts, hfill] at ha
      simp [verbAct] at ha
    cases slot with
    | version => exact absurd rfl (hversion _ hact args)
    | _ => rfl

end CallSnippets
