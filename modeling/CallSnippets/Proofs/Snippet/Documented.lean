import CallSnippets.Proofs.Grammar.JavaScript
import CallSnippets.Proofs.Json.Limit
import CallSnippets.Proofs.Snippet.Outcome
import CallSnippets.Proofs.Template.Documented

/-!
# Grammars that keep to their arguments

Every place of a grammar for templates is filled in with arguments of its own, under names that are
known. If the templates in all places name these arguments and no others, the assembly of a snippet
fails for no reason that lies in the templates: every act that a request calls for finds its template,
and the template finds what it asks for.

What is left are numbers that are too long to be converted. A whole number may be given for a modifier,
and it is written out if its call is written and has a field for it. And a body is read before it is
declared, up to the first number in it that is too long. Neither can be told from the grammar alone, so
both are found in the request.

## Main definitions

* `Slot.names`: The arguments that a template in a place may name.
* `Grammar.IsDocumented`: The templates of a grammar keep to their arguments.
* `WritesTooLong`, `ReadsTooLong`: A request has a number that is too long, for a call or in its body.
* `Act.IsTextual`: All that an act fills in are texts.
* `Called`: What a request may call for.

## Theorems

* `fault?_of_isTextual`: Such an act does not fail in a grammar that keeps to its arguments.
* `isSome_fault?_modifierAct`, `isSome_fault?_readJson`: The other acts fail for numbers alone.
* `called_of_mem`: The acts that a request calls for.
* `generate_documented`: When the assembly of a snippet fails.
-/

namespace CallSnippets

open Template (byName byPosition gives_first gives_second gives_named gives_named_next)

/-- The arguments that a template in a place may name. -/
def Slot.names : Slot → List Text
  | .header => ["0", "1"]
  | .modifier _ => ["0"]
  | .verb _ => ["argument"]
  | .request => ["path"]
  | .version => ["0"]
  | .key => ["0"]
  | .body => ["name", "body"]
  | .typedBody => ["type", "name"]

/-- The templates of a grammar are well formed, and name the arguments of their places only. -/
def Grammar.IsDocumented (g : Grammar) : Prop :=
  ∀ ⦃slot t⦄, g.template? slot = some t → Template.IsDocumented slot.names t

/-- A call is written that has a field for a whole number with too many digits. -/
def WritesTooLong (g : Grammar) (r : Request) : Prop :=
  r.method = "GET" ∧ r.customOptions = [] ∧ ∃ kind n,
    r.modifiers.find? (.one kind) = some (.one kind (.int n)) ∧
      Template.Uses (g.templateFor (.one kind)) "0" ∧ digitLimit < (natText n.natAbs).length

/-- A body is declared that is read up to a whole number with too many digits. -/
def ReadsTooLong (r : Request) : Prop :=
  sendsBody r.method = true ∧ ∃ body digits, r.body = some body ∧ Text.allBlank body = false ∧
    Json.read (some digitLimit) (Text.trim body) = .error (.tooLong digits) ∧
      Json.Exceeds (some digitLimit) digits (Text.trim body)

/-- All that an act fills in are texts. -/
def Act.IsTextual : Act → Prop
  | fill slot args => ∀ name ∈ slot.names, ∃ t, args.Gives name (.text t)
  | readJson _ => False

/-- What a request may call for. The acts with numbers are called for under conditions of their own;
    all others fill in texts. -/
inductive Called (g : Grammar) (r : Request) : Act → Prop where
  | header (header : Text × Text) : Called g r (headerAct g header)
  | modifier (m : Modifier) (hget : r.method = "GET") (hcustom : r.customOptions = [])
      (hm : m ∈ shownModifiers r) : Called g r (modifierAct g m)
  | json (body : Text) (hsends : sendsBody r.method = true) (hbody : r.body = some body)
      (hblank : Text.allBlank body = false) : Called g r (.readJson (Text.trim body))
  | key (content : Text) : Called g r (.fill .key (byPosition [Text.trimEnd content]))
  | body (name body : Text) : Called g r (.fill .body (byName [("name", name), ("body", body)]))
  | typedBody (type name : Text) :
      Called g r (.fill .typedBody (byName [("type", type), ("name", name)]))
  | verb (argument : Text) : Called g r (verbAct r argument)
  | request (path : Text) : Called g r (.fill .request (byName [("path", path)]))
  | version (version : Text) : Called g r (.fill .version (byPosition [version]))

section

variable {g : Grammar} {r : Request}

/-! ## Acts -/

theorem fault?_of_isTextual (hd : g.IsDocumented) {act : Act} (h : act.IsTextual) :
    act.fault? g = none := by
  cases act with
  | readJson t => exact absurd h id
  | fill slot args =>
      rw [Act.fault?, fillOrFault, errorOf?_mapError]
      cases htemplate : g.template? slot with
      | none => rfl
      | some t =>
          rw [Option.getD_some, Template.errorOf?_fill_texts (hd htemplate) h, Option.map_none]

/-- An act at a place with one argument fills in texts if this argument is one. -/
theorem isTextual_single {slot : Slot} {args : Template.Arguments} {name t : Text}
    (hnames : slot.names = [name]) (hgives : args.Gives name (.text t)) :
    (Act.fill slot args).IsTextual := by
  intro other hother
  rw [hnames, List.mem_singleton] at hother
  rw [hother]
  exact ⟨t, hgives⟩

/-- An act at a place with two arguments fills in texts if both of them are. -/
theorem isTextual_pair {slot : Slot} {args : Template.Arguments} {name name' t t' : Text}
    (hnames : slot.names = [name, name']) (hgives : args.Gives name (.text t))
    (hgives' : args.Gives name' (.text t')) : (Act.fill slot args).IsTextual := by
  intro other hother
  rw [hnames, List.mem_cons, List.mem_singleton] at hother
  rcases hother with rfl | rfl
  · exact ⟨t, hgives⟩
  · exact ⟨t', hgives'⟩

/-- Whatever is called for fills in texts, but for the calls of modifiers and the reading of a body. -/
theorem Called.isTextual {act : Act} (h : Called g r act) :
    act.IsTextual ∨
      (r.method = "GET" ∧ r.customOptions = [] ∧ ∃ m ∈ shownModifiers r, act = modifierAct g m) ∨
      sendsBody r.method = true ∧ ∃ body, r.body = some body ∧ Text.allBlank body = false ∧
        act = .readJson (Text.trim body) := by
  cases h with
  | modifier m hget hcustom hm => exact .inr (.inl ⟨hget, hcustom, m, hm, rfl⟩)
  | json body hsends hbody hblank => exact .inr (.inr ⟨hsends, body, hbody, hblank, rfl⟩)
  | header header => exact .inl (isTextual_pair rfl (gives_first _ _) (gives_second _ _ _))
  | body variableName literal =>
      exact .inl (isTextual_pair rfl (gives_named "name" _ _ (by decide) rfl rfl)
        (gives_named_next "body" "name" _ _ _ (by decide) rfl rfl (by decide)))
  | typedBody type variableName =>
      exact .inl (isTextual_pair rfl (gives_named "type" _ _ (by decide) rfl rfl)
        (gives_named_next "name" "type" _ _ _ (by decide) rfl rfl (by decide)))
  | verb argument =>
      exact .inl (isTextual_single rfl (gives_named "argument" _ _ (by decide) rfl rfl))
  | request path => exact .inl (isTextual_single rfl (gives_named "path" _ _ (by decide) rfl rfl))
  | key content => exact .inl (isTextual_single rfl (gives_first _ _))
  | version version => exact .inl (isTextual_single rfl (gives_first _ _))

/-! ## Numbers -/

theorem mem_kinds (kind : ModifierKind) : kind ∈ ModifierKind.all := by
  rcases kind with kind | kind <;> cases kind <;> decide

/-- A complete grammar has a call for every kind of modifier. -/
theorem template?_modifier (hg : g.complete = .ok g) (kind : ModifierKind) :
    g.template? (.modifier kind) = some (g.templateFor kind) := by
  rw [Grammar.template?, Grammar.templateFor]
  cases hlookup : g.modifierTemplates.lookup kind with
  | some t => rfl
  | none =>
      -- A kind without a call would be missing, and nothing is.
      have hmissing : kind ∈ g.missingKinds :=
        List.mem_filter.mpr ⟨mem_kinds kind, by rw [hlookup]; rfl⟩
      rw [(complete_eq_ok.mp hg).1] at hmissing
      exact absurd hmissing List.not_mem_nil

/-- A number has no text exactly if it has too many digits. -/
theorem isSome_errorOf?_plain (n : Int) :
    (errorOf? (Template.Argument.int n).plain).isSome = true ↔
      digitLimit < (natText n.natAbs).length := by
  rw [Template.Argument.plain, intText?]
  by_cases hshort : (natText n.natAbs).length ≤ digitLimit
  · rw [if_pos hshort]
    exact ⟨fun h => absurd h Bool.false_ne_true, fun h => absurd hshort (Nat.not_le_of_lt h)⟩
  · rw [if_neg hshort]
    exact ⟨fun _ => Nat.lt_of_not_le hshort, fun _ => rfl⟩

/-- The call for a modifier fails exactly if it has a field for a number that is too long. -/
theorem isSome_fault?_modifierAct (hg : g.complete = .ok g) (hd : g.IsDocumented) (m : Modifier) :
    ((modifierAct g m).fault? g).isSome = true ↔ ∃ kind n, m = .one kind (.int n) ∧
      Template.Uses (g.templateFor (.one kind)) "0" ∧ digitLimit < (natText n.natAbs).length := by
  -- Whatever the kind is, the one argument of the call is what can fail.
  have hfill : ((modifierAct g m).fault? g).isSome = true ↔
      Template.Uses (g.templateFor m.kind) "0" ∧
        (errorOf? (modifierArgument g m).plain).isSome = true := by
    have hgives : ∀ name ∈ (Slot.modifier m.kind).names,
        Template.Arguments.Gives ⟨[modifierArgument g m], []⟩ name (modifierArgument g m) := by
      intro name hname
      rw [List.mem_singleton.mp hname]
      exact gives_first _ []
    rw [modifierAct, Act.fault?, fillOrFault, errorOf?_mapError, Option.isSome_map,
      template?_modifier hg, Option.getD_some,
      Template.isSome_errorOf?_fill (hd (template?_modifier hg m.kind)) hgives]
    simp only [Slot.names, List.mem_singleton, exists_eq_left]
  rw [hfill]
  cases m with
  | many kind values =>
      simp only [modifierArgument, Template.Argument.plain, errorOf?_ok, Option.isSome_none,
        Bool.false_eq_true, and_false, reduceCtorEq, false_and, exists_false]
  | one kind value =>
      cases value with
      | text t =>
          simp only [modifierArgument, Template.Argument.plain, errorOf?_ok, Option.isSome_none,
            Bool.false_eq_true, and_false, reduceCtorEq, false_and, Modifier.one.injEq, exists_false]
      | int n =>
          rw [modifierArgument, isSome_errorOf?_plain]
          constructor
          · rintro ⟨huses, hlong⟩
            exact ⟨kind, n, rfl, huses, hlong⟩
          · rintro ⟨_, _, heq, huses, hlong⟩
            cases heq
            exact ⟨huses, hlong⟩

theorem isSome_fault?_readJson (t : Text) :
    ((Act.readJson t).fault? g).isSome = true ↔
      ∃ digits, Json.read (some digitLimit) t = .error (.tooLong digits) := by
  rw [Act.fault?, jsonFault?]
  split
  · next digits h => simp only [h, Option.isSome_some, Except.error.injEq,
      Json.Failure.tooLong.injEq, exists_eq']
  · next h =>
    simp only [Option.isSome_none, Bool.false_eq_true, false_iff, not_exists]
    exact h

/-! ## Whole numbers among modifiers -/

theorem mem_shownModifiers_int {kind : OneKind} {n : Int} :
    .one kind (.int n) ∈ shownModifiers r ↔
      r.modifiers.find? (.one kind) = some (.one kind (.int n)) := by
  rw [shownModifiers, List.mem_filter, List.mem_filterMap]
  constructor
  · rintro ⟨⟨other, _, hfound⟩, _⟩
    -- What is found under a kind is of that kind.
    have hkind : (Modifier.one kind (.int n)).kind = other := by
      have hsome := List.find?_some hfound
      simpa using hsome
    rw [← hkind] at hfound
    exact hfound
  · intro hfound
    exact ⟨⟨.one kind, mem_kinds _, hfound⟩, rfl⟩

/-! ## The acts of a request -/

theorem called_of_mem_queryActs {act : Act} (hget : r.method = "GET") (h : act ∈ queryActs g r) :
    Called g r act := by
  rw [queryActs, List.mem_append] at h
  rcases h with h | h
  · rcases List.mem_map.mp h with ⟨header, _, rfl⟩
    exact .header header
  · cases hcustom : r.hasCustomQuery with
    | true =>
        rw [if_pos hcustom] at h
        exact absurd h List.not_mem_nil
    | false =>
        rw [if_neg (by rw [hcustom]; exact Bool.false_ne_true)] at h
        rcases List.mem_map.mp h with ⟨m, hm, rfl⟩
        exact .modifier m hget (hasCustomQuery_eq_false.mp hcustom) hm

theorem called_of_mem_bodyActs {act : Act} (hsends : sendsBody r.method = true)
    (h : act ∈ bodyActs g r) : Called g r act := by
  unfold bodyActs at h
  split at h
  · exact absurd h List.not_mem_nil
  · next body hbody =>
    split at h
    · exact absurd h List.not_mem_nil
    · next hblank =>
      rw [List.mem_append, List.mem_cons, List.mem_filterMap, List.mem_singleton] at h
      rcases h with (rfl | ⟨token, _, hkey⟩) | rfl
      · exact .json body hsends hbody (Bool.not_eq_true _ ▸ hblank)
      · cases token with
        | key content blanks =>
            rw [← Option.some.inj hkey]
            exact .key content
        | char c => cases hkey
        | string content => cases hkey
      · exact .body _ _

theorem called_of_mem_argumentActs {act : Act} (h : act ∈ argumentActs g r) : Called g r act := by
  unfold argumentActs at h
  split at h
  · exact absurd h List.not_mem_nil
  · split at h
    · exact absurd h List.not_mem_nil
    · split at h
      · exact absurd h List.not_mem_nil
      · rw [List.mem_singleton.mp h]
        exact .typedBody _ _

theorem called_of_mem_requestActs {act : Act} (h : act ∈ requestActs g r) : Called g r act := by
  rw [requestActs, List.mem_cons] at h
  rcases h with rfl | h
  · exact .request _
  · split at h
    · rw [List.mem_singleton.mp h]
      exact .version _
    · exact absurd h List.not_mem_nil

theorem called_of_mem {act : Act} (h : act ∈ acts g r) : Called g r act := by
  rw [acts, List.mem_append] at h
  rcases h with h | h
  · split at h
    · next hget =>
      rcases List.mem_append.mp h with h | h
      · exact called_of_mem_queryActs hget h
      · rw [List.mem_singleton.mp h]
        exact .verb []
    · split at h
      · next hsends =>
        simp only [List.mem_append, List.mem_singleton] at h
        rcases h with (h | h) | rfl
        · exact called_of_mem_bodyActs hsends h
        · exact called_of_mem_argumentActs h
        · exact .verb _
      · rw [List.mem_singleton.mp h]
        exact .verb []
  · exact called_of_mem_requestActs h

theorem modifierAct_mem_acts {m : Modifier} (hget : r.method = "GET") (hcustom : r.customOptions = [])
    (hm : m ∈ shownModifiers r) : modifierAct g m ∈ acts g r := by
  rw [acts, if_pos hget, queryActs, hasCustomQuery_eq_false.mpr hcustom]
  simp only [List.mem_append, if_neg Bool.false_ne_true]
  exact .inl (.inl (.inr (List.mem_map.mpr ⟨m, hm, rfl⟩)))

theorem readJson_mem_acts {body : Text} (hsends : sendsBody r.method = true)
    (hbody : r.body = some body) (hblank : Text.allBlank body = false) :
    .readJson (Text.trim body) ∈ acts g r := by
  -- A request that reads sends no body.
  have hget : r.method ≠ "GET" := by
    intro hget
    rw [hget] at hsends
    exact absurd hsends (by decide)
  rw [acts, if_neg hget, if_pos hsends, bodyActs, hbody]
  simp only [hblank, Bool.false_eq_true, if_false, List.cons_append, List.mem_cons, true_or]

/-- Every act that is called for finds its template. -/
theorem template?_of_mem_acts (hg : g.complete = .ok g) (hverb : g.verbFor? r.method ≠ none)
    {slot : Slot} {args : Template.Arguments} (h : .fill slot args ∈ acts g r) :
    ∃ template, g.template? slot = some template := by
  cases slot with
  | modifier kind => exact ⟨_, template?_modifier hg kind⟩
  | verb method =>
      -- The only call for a method is the one for the method of the request.
      have hmethod : ∀ {act : Act}, Called g r act → act = .fill (.verb method) args →
          method = r.method := by
        intro act hcalled hact
        cases hcalled <;> cases hact
        rfl
      rw [hmethod (called_of_mem h) rfl]
      exact Option.ne_none_iff_exists'.mp hverb
  | _ => exact ⟨_, rfl⟩

/-- Some act fails exactly if a number is too long, for a call or in the body. -/
theorem isSome_firstFault?_acts (hg : g.complete = .ok g) (hd : g.IsDocumented) :
    (firstFault? g (acts g r)).isSome = true ↔ WritesTooLong g r ∨ ReadsTooLong r := by
  rw [firstFault?, List.findSome?_isSome_iff]
  constructor
  · rintro ⟨act, hact, hfault⟩
    rcases (called_of_mem hact).isTextual with htextual | ⟨hget, hcustom, m, hm, rfl⟩ |
      ⟨hsends, body, hbody, hblank, rfl⟩
    · rw [fault?_of_isTextual hd htextual] at hfault
      exact absurd hfault Bool.false_ne_true
    · rcases (isSome_fault?_modifierAct hg hd m).mp hfault with ⟨kind, n, rfl, huses, hlong⟩
      exact .inl ⟨hget, hcustom, kind, n, mem_shownModifiers_int.mp hm, huses, hlong⟩
    · rcases (isSome_fault?_readJson _).mp hfault with ⟨digits, hread⟩
      exact .inr ⟨hsends, body, digits, hbody, hblank, hread, Json.read_tooLong hread⟩
  · rintro (⟨hget, hcustom, kind, n, hfound, huses, hlong⟩ |
      ⟨hsends, body, digits, hbody, hblank, hread, _⟩)
    · exact ⟨_, modifierAct_mem_acts hget hcustom (mem_shownModifiers_int.mpr hfound),
        (isSome_fault?_modifierAct hg hd _).mpr ⟨kind, n, rfl, huses, hlong⟩⟩
    · exact ⟨_, readJson_mem_acts hsends hbody hblank, (isSome_fault?_readJson _).mpr ⟨digits, hread⟩⟩

end

/-- When the assembly of a snippet fails, in a complete grammar that keeps to its arguments. -/
theorem generate_documented {g : Grammar} (hg : g.complete = .ok g) (hd : g.IsDocumented)
    (r : Request) :
    (∀ slot args, g.verbFor? r.method ≠ none → .fill slot args ∈ acts g r →
        ∃ template, g.template? slot = some template) ∧
      ((generate g r).failureKind? = some .assembly ↔
        g.verbFor? r.method ≠ none ∧ ¬LacksBody g r ∧ (WritesTooLong g r ∨ ReadsTooLong r)) := by
  refine ⟨fun slot args hverb hact => template?_of_mem_acts hg hverb hact, ?_⟩
  rw [failureKind?_generate, ← isSome_firstFault?_acts hg hd, Option.isSome_iff_exists]
  split_ifs with hverb hlacks
  · simp [hverb]
  · simp [hverb, hlacks]
  · simp [hverb, hlacks]

/-! ## JavaScript -/

namespace JavaScript

/-- The call for a method has a field for what it passes on, or no field. -/
theorem isDocumented_verb {method verb : Text} (h : javaScript.verbFor? method = some verb) :
    Template.IsDocumented ["argument"] verb := by
  have hmem := verb_mem h
  simp only [javaScript, List.mem_cons, Prod.mk.injEq, List.not_mem_nil, or_false] at hmem
  have hliteral : ∀ {template t : Text}, Template.pieces template = ([.literal t], none) →
      Template.IsDocumented ["argument"] template := fun hcut =>
    Template.isDocumented_of_pieces hcut (by simp)
  have hcall : ∀ (start stop : Text) {template : Text}, Template.pieces template =
      ([.literal start, .field (.plain "argument"), .literal stop], none) →
      Template.IsDocumented ["argument"] template := fun _ _ _ hcut =>
    Template.isDocumented_of_pieces hcut (by simp)
  rcases hmem with ⟨_, rfl⟩ | ⟨_, rfl⟩ | ⟨_, rfl⟩ | ⟨_, rfl⟩ | ⟨_, rfl⟩
  · exact hliteral (t := "\n\t.get();") (Template.pieces_source (by decide) (by decide))
  · exact hcall "\n\t.post(" ");"
      (Template.pieces_source (by decide) (by decide))
  · exact hcall "\n\t.update(" ");"
      (Template.pieces_source (by decide) (by decide))
  · exact hcall "\n\t.put(" ");"
      (Template.pieces_source (by decide) (by decide))
  · exact hliteral (t := "\n\t.delete();") (Template.pieces_source (by decide) (by decide))

theorem isDocumented_javaScript : javaScript.IsDocumented := by
  intro slot t ht
  cases slot with
  | modifier kind =>
      have htemplate : t = javaScript.templateFor kind := by
        rw [Grammar.templateFor, show javaScript.modifierTemplates.lookup kind = some t from ht]
        rfl
      rw [htemplate]
      exact Template.isDocumented_of_pieces (pieces_modifier kind) (by simp [Slot.names])
  | verb method => exact isDocumented_verb ht
  | header =>
      cases ht
      exact Template.isDocumented_of_pieces pieces_header (by simp [Slot.names])
  | request =>
      cases ht
      exact Template.isDocumented_of_pieces pieces_request (by simp [Slot.names])
  | version =>
      cases ht
      exact Template.isDocumented_of_pieces pieces_version (by simp [Slot.names])
  | key =>
      cases ht
      exact Template.isDocumented_of_pieces pieces_key (by simp [Slot.names])
  | body =>
      cases ht
      exact Template.isDocumented_of_pieces pieces_body (by simp [Slot.names])
  | typedBody =>
      cases ht
      exact Template.isDocumented_of_pieces pieces_typedBody (by simp [Slot.names])

end JavaScript

/-- A request for the first results only. -/
def paged (count : Int) : Request :=
  { versioned "beta" with modifiers := [.one .top (.int count)] }

theorem generate_documented_paged :
    javaScript.complete = .ok javaScript ∧ javaScript.IsDocumented ∧
      (generate javaScript (paged 5)).failureKind? ≠ some .assembly := by
  have hcomplete : javaScript.complete = .ok javaScript :=
    complete_eq_ok.mpr ⟨by decide +kernel, by decide +kernel, rfl⟩
  refine ⟨hcomplete, JavaScript.isDocumented_javaScript, fun hfailure => ?_⟩
  rcases ((generate_documented hcomplete JavaScript.isDocumented_javaScript (paged 5)).2.mp
    hfailure).2.2 with ⟨_, _, kind, n, hfound, _, hlong⟩ | ⟨hsends, _⟩
  · have hcount : n = 5 := by
      cases kind <;> cases hfound
      rfl
    rw [hcount] at hlong
    exact absurd hlong (by decide)
  · exact absurd hsends (by decide)

end CallSnippets
