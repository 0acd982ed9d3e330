import CallSnippets.Proofs.Snippet.Acts

/-!
# Templates that are not used

An act names the place of the template that it fills in. A request can tell what stands in the places
that its acts name, and nothing of any other place: two grammars with the same rules and with the same
templates in these places make the same snippet of it, or fail in the same way. A template that is not
well formed does no harm, then, as long as no request comes for which it is filled in.

The acts are those that the first of the two grammars calls for. The second one calls for the same acts,
but that is a consequence, and does not have to be known.

## Main definitions

* `Grammar.rules`: What a grammar holds beside its templates.
* `SameTemplates`: Two grammars have the same templates in the places that acts name.

## Theorems

* `eq_of_rules`: What does not look at templates is the same for grammars with the same rules.
* `querySection_congr`, `declareBody_congr`, `bodyArgument_congr`, `requestSection_congr`: The parts.
* `assemble_congr`: The parts put together.
* `verbFor?_congr`: Both grammars have the same call for the method.
-/

namespace CallSnippets

/-- A grammar without its templates. -/
def Grammar.rules (g : Grammar) : Grammar :=
  { g with
    modifierTemplates := []
    headerTemplate := []
    requestTemplate := []
    versionTemplate := []
    verbTemplates := []
    bodyTemplate := []
    typedBodyTemplate := []
    keyTemplate := [] }

/-- Two grammars have the same templates in the places that acts name. -/
def SameTemplates (g g' : Grammar) (acts : List Act) : Prop :=
  ∀ ⦃slot args⦄, .fill slot args ∈ acts → g.template? slot = g'.template? slot

section

variable {g g' : Grammar} {r : Request}

/-- What does not look at templates is the same for grammars with the same rules. -/
theorem eq_of_rules {α : Type} (f : Grammar → α) (hf : ∀ g, f g = f g.rules)
    (hrules : g.rules = g'.rules) : f g = f g' := by
  rw [hf g, hrules, ← hf g']

theorem shownHeaders_congr (hrules : g.rules = g'.rules) : shownHeaders g r = shownHeaders g' r :=
  eq_of_rules (fun rules => shownHeaders rules r) (fun _ => rfl) hrules

theorem escape_congr (hrules : g.rules = g'.rules) (t : Text) : g.escape t = g'.escape t :=
  eq_of_rules (fun rules => rules.escape t) (fun _ => rfl) hrules

theorem safeName_congr (hrules : g.rules = g'.rules) (name : Text) :
    g.safeName name = g'.safeName name :=
  eq_of_rules (fun rules => rules.safeName name) (fun _ => rfl) hrules

theorem modifierArgument_congr (hrules : g.rules = g'.rules) (m : Modifier) :
    modifierArgument g m = modifierArgument g' m := by
  refine eq_of_rules (fun rules => modifierArgument rules m) (fun rules => ?_) hrules
  -- The delimiter depends on the kind, so the rules are not seen before the kind is known.
  cases m with
  | many kind values => cases kind <;> rfl
  | one kind value => cases value <;> rfl

theorem concatenate_congr {α : Type} {make make' : α → Except Fault Text} {items : List α}
    (h : ∀ a ∈ items, make a = make' a) : concatenate make items = concatenate make' items := by
  induction items with
  | nil => rfl
  | cons a rest ih =>
      rw [concatenate, concatenate, h a (List.mem_cons_self ..),
        ih fun b hb => h b (List.mem_cons_of_mem a hb)]

theorem SameTemplates.left {a b : List Act} (h : SameTemplates g g' (a ++ b)) : SameTemplates g g' a :=
  fun _ _ hact => h (List.mem_append_left b hact)

theorem SameTemplates.right {a b : List Act} (h : SameTemplates g g' (a ++ b)) : SameTemplates g g' b :=
  fun _ _ hact => h (List.mem_append_right a hact)

theorem headerSection_congr (hrules : g.rules = g'.rules) (h : SameTemplates g g' (queryActs g r)) :
    headerSection g r = headerSection g' r := by
  rw [headerSection, headerSection, ← shownHeaders_congr hrules]
  refine concatenate_congr fun header hheader => ?_
  have htemplate : some g.headerTemplate = some g'.headerTemplate :=
    h.left (List.mem_map_of_mem hheader)
  rw [headerCall, headerCall, ← escape_congr hrules, ← escape_congr hrules,
    Option.some.inj htemplate]

theorem modifierSection_congr (hrules : g.rules = g'.rules) (hcustom : r.hasCustomQuery = false)
    (h : SameTemplates g g' (queryActs g r)) : modifierSection g r = modifierSection g' r := by
  rw [queryActs, hcustom, if_neg (by decide)] at h
  rw [modifierSection, modifierSection]
  refine concatenate_congr fun m hm => ?_
  have htemplate : g.modifierTemplates.lookup m.kind = g'.modifierTemplates.lookup m.kind :=
    h.right (List.mem_map_of_mem hm)
  rw [modifierCall, modifierCall, ← modifierArgument_congr hrules, Grammar.templateFor,
    Grammar.templateFor, htemplate]

theorem querySection_congr (hrules : g.rules = g'.rules) (h : SameTemplates g g' (queryActs g r)) :
    querySection g r = querySection g' r := by
  rw [querySection, querySection, headerSection_congr hrules h]
  cases hcustom : r.hasCustomQuery with
  | true => simp only [if_true]
  | false => rw [modifierSection_congr hrules hcustom h]

theorem writeTokens_congr {ts : List Token} (h : SameTemplates g g' (ts.filterMap keyAct?)) :
    writeTokens g.keyTemplate ts = writeTokens g'.keyTemplate ts := by
  induction ts with
  | nil => rfl
  | cons t rest ih =>
      have hact : t.write g.keyTemplate = t.write g'.keyTemplate := by
        cases t with
        | key content blanks =>
            have htemplate : some g.keyTemplate = some g'.keyTemplate :=
              h (List.mem_cons_self ..)
            rw [Option.some.inj htemplate]
        | char c => rfl
        | string content => rfl
      -- The acts of the other tokens are among the acts of all.
      have hrest : SameTemplates g g' (rest.filterMap keyAct?) := by
        intro slot args hmem
        rcases List.mem_filterMap.mp hmem with ⟨key, hkey, heq⟩
        exact h (List.mem_filterMap.mpr ⟨key, List.mem_cons_of_mem t hkey, heq⟩)
      rw [writeTokens, writeTokens, hact, ih hrest]

theorem declareBody_congr (hrules : g.rules = g'.rules) (h : SameTemplates g g' (bodyActs g r)) :
    declareBody g r.body (g.safeName r.variableName) =
      declareBody g' r.body (g'.safeName r.variableName) := by
  rw [← safeName_congr hrules]
  unfold declareBody
  unfold bodyActs at h
  cases hbody : r.body with
  | none => rfl
  | some body =>
      simp only [hbody] at h ⊢
      by_cases hblank : Text.allBlank body = true
      · rw [if_pos hblank, if_pos hblank]
      · rw [if_neg hblank] at h
        rw [if_neg hblank, if_neg hblank]
        have hbodyTemplate : some g.bodyTemplate = some g'.bodyTemplate :=
          h (List.mem_append_right _ (List.mem_singleton.mpr rfl))
        have hkeys : rewriteKeys g.keyTemplate (Text.trim body) =
            rewriteKeys g'.keyTemplate (Text.trim body) :=
          writeTokens_congr fun slot args hact =>
            h (List.mem_append_left _ (List.mem_cons_of_mem _ hact))
        rw [hkeys, Option.some.inj hbodyTemplate]

theorem bodyArgument_congr (hrules : g.rules = g'.rules) (h : SameTemplates g g' (argumentActs g r)) :
    bodyArgument g r (g.safeName r.variableName) =
      bodyArgument g' r (g'.safeName r.variableName) := by
  rw [← safeName_congr hrules]
  rw [argumentActs] at h
  rw [bodyArgument, bodyArgument]
  cases hbody : r.hasBody with
  | false => rfl
  | true =>
      rw [hbody, if_neg (by decide)] at h
      cases hlast : r.lastSegment? with
      | none => rfl
      | some s =>
          simp only [hlast] at h ⊢
          by_cases hoperation : s.isOperation = true
          · rw [if_pos hoperation, if_pos hoperation]
          · rw [if_neg hoperation] at h
            have htemplate : some g.typedBodyTemplate = some g'.typedBodyTemplate :=
              h (List.mem_singleton.mpr rfl)
            rw [Option.some.inj htemplate]

theorem requestSection_congr (hrules : g.rules = g'.rules) (h : SameTemplates g g' (requestActs g r)) :
    requestSection g r = requestSection g' r := by
  have hrequest : some g.requestTemplate = some g'.requestTemplate := h (List.mem_cons_self ..)
  have hpreview : g.isPreview r.apiVersion = g'.isPreview r.apiVersion :=
    eq_of_rules (fun rules => rules.isPreview r.apiVersion) (fun _ => rfl) hrules
  rw [requestSection, requestSection, ← hpreview, Option.some.inj hrequest]
  by_cases hp : g.isPreview r.apiVersion = true
  · rw [requestActs, if_pos hp] at h
    have hversion : some g.versionTemplate = some g'.versionTemplate :=
      h (List.mem_cons_of_mem _ (List.mem_singleton.mpr rfl))
    rw [Option.some.inj hversion]
  · simp only [if_neg hp]

/-- A request cannot tell templates apart in places that its acts do not name. -/
theorem assemble_congr (hrules : g.rules = g'.rules) (h : SameTemplates g g' (acts g r)) (verb : Text) :
    assemble g r verb = assemble g' r verb := by
  have hpreamble : g.preamble = g'.preamble :=
    eq_of_rules Grammar.preamble (fun _ => rfl) hrules
  -- The acts split by the method as the parts do, so each part gets the acts that are its own.
  have hparts : declarationAndCalls g r verb = declarationAndCalls g' r verb := by
    have h := h.left
    rw [declarationAndCalls, declarationAndCalls]
    by_cases hget : r.method = "GET"
    · rw [if_pos hget] at h
      rw [if_pos hget, if_pos hget, querySection_congr hrules h.left]
    · rw [if_neg hget] at h
      rw [if_neg hget, if_neg hget]
      by_cases hsends : sendsBody r.method = true
      · rw [if_pos hsends] at h
        rw [if_pos hsends, if_pos hsends, declareBody_congr hrules h.left.left,
          bodyArgument_congr hrules h.left.right]
      · rw [if_neg hsends, if_neg hsends]
  rw [assemble, assemble, hparts, requestSection_congr hrules h.right, hpreamble]

/-- Every request comes for the call for its method. -/
theorem verbFor?_congr (h : SameTemplates g g' (acts g r)) :
    g.verbFor? r.method = g'.verbFor? r.method := by
  have hverb : ∃ argument, verbAct r argument ∈ acts g r := by
    rw [acts]
    by_cases hget : r.method = "GET"
    · rw [if_pos hget]
      exact ⟨[], List.mem_append_left _ (List.mem_append_right _ (List.mem_singleton.mpr rfl))⟩
    · rw [if_neg hget]
      by_cases hsends : sendsBody r.method = true
      · rw [if_pos hsends]
        exact ⟨passedText g r,
          List.mem_append_left _ (List.mem_append_right _ (List.mem_singleton.mpr rfl))⟩
      · rw [if_neg hsends]
        exact ⟨[], List.mem_append_left _ (List.mem_singleton.mpr rfl)⟩
  rcases hverb with ⟨argument, hact⟩
  exact h hact

end

end CallSnippets
