import CallSnippets.Proofs.Literal.Document
import CallSnippets.Proofs.Number.Decimal
import CallSnippets.Proofs.Snippet.JavaScript
import CallSnippets.Proofs.Snippet.Statements

/-!
# Snippets without flaws

A snippet of JavaScript has no flaws if what it takes from the request closes what it opens: the check
of a snippet looks at its characters alone, and the fixed text between the parts is closed.

What has to be asked of a part depends on where it goes. A path is not escaped, so it must be free of
marks and backslashes. Headers and texts of modifiers are escaped, which works for every text whose runs
of backslashes are even where that matters. Counts and names stand outside of strings and must be inert.
Of a body nothing is asked but that it is JSON with inert keys: whatever its strings hold is copied with
its marks, and its brackets are closed by its structure.

## Main definitions

* `IsClosed`: The value of a modifier does not leave its place.
* `LocallyClosed`: What a request puts into its snippet is closed.
* `optionsDeclaration`, `clientDeclaration`: What every snippet starts with.

## Theorems

* `phrase_quotedCall`, `phrase_bareCall`: Calls with a value.
* `closed_preambleText`: The two declarations that every snippet starts with.
* `phrase_queryText`, `phrase_requestText`, `closed_declarationText`, `closed_argumentText`: The parts.
* `statement_callsText`: The calls behind the line of the request end its statement.
* `endsStatement_snippetText`: The text of a snippet is closed, and ends a statement.
* `flaws_javaScript`: A snippet of such a request has no flaws.
-/

namespace CallSnippets

namespace JavaScript

open Json (Document chars plainLetters)

/-- The value of a modifier does not leave its place: a count is a number or inert, any other value does
    not end the string that it stands in. -/
def IsClosed : Modifier → Prop
  | .many kind values => RunsEven (Text.join (delimiterText kind) values)
  | .one kind (.text t) => if isCount (.one kind) then ∀ c ∈ t, isInert c = true else RunsEven t
  | .one _ (.int _) => True

/-- What a request puts into its snippet does not leave its place. -/
structure LocallyClosed (r : Request) : Prop where
  /-- The path has no mark and no backslash. -/
  path : ∀ c ∈ pathText r, c ≠ singleMark ∧ c ≠ backslash
  /-- The headers that are written do not end their strings. -/
  headers : r.method = "GET" → ∀ header ∈ r.headers, Text.lower header.1 ≠ "host" →
    RunsEven header.1 ∧ RunsEven header.2
  /-- The modifiers that are written do not leave their places. -/
  modifiers : r.method = "GET" → r.customOptions = [] → ∀ kind m, r.modifiers.find? kind = some m →
    IsClosed m
  /-- A body that is declared has inert names, and is JSON with inert keys. -/
  body : sendsBody r.method = true → ∀ body, r.body = some body → Text.allBlank body = false →
    (∀ c ∈ r.variableName, isInert c = true) ∧
      (∀ s, r.lastSegment? = some s → ∀ c ∈ s.shortTypeName, isInert c = true) ∧
      ∃ d : Document, d.text = Text.trim body ∧ ∀ k ∈ d.keys, ∀ c ∈ chars k.name, isInert c = true

/-! ## Calls -/

/-- A call with a value that is a string. -/
theorem phrase_quotedCall (name : Text) {start value : Text}
    (hstart : start = name ++ [.char '(', singleMark]) (hname : ∀ c ∈ name, isQuiet c = true)
    (hvalue : Inside singleMark value) :
    IsPhrase (start ++ value ++ "')") := by
  have hcall : IsPhrase (name ++ enclosed '(' ')' (enclosed singleMark singleMark value)) :=
    phrase_append (phrase_quiet hname)
      (phrase_bracketed (by decide) (closed_string (by decide) (by decide) hvalue))
  -- The call is its name with a string between brackets.
  have htext : start ++ value ++ "')" =
      name ++ enclosed '(' ')' (enclosed singleMark singleMark value) := by
    have hstop : ("')" : Text) = [singleMark, .char ')'] := by decide
    simp only [hstart, hstop, enclosed, List.append_assoc, List.cons_append, List.nil_append]
  rw [htext]
  exact hcall

/-- A call with a value as it is. -/
theorem phrase_bareCall (name : Text) {start value : Text} (hstart : start = name ++ [.char '('])
    (hname : ∀ c ∈ name, isQuiet c = true) (hvalue : Closed value) :
    IsPhrase (start ++ value ++ ")") := by
  have htext : start ++ value ++ ")" = name ++ enclosed '(' ')' value := by
    have hstop : (")" : Text) = [.char ')'] := by decide
    simp only [hstart, hstop, enclosed, List.append_assoc, List.cons_append, List.nil_append]
  rw [htext]
  exact phrase_append (phrase_quiet hname) (phrase_bracketed (by decide) hvalue)

theorem phrase_headerText {header : Text × Text} (hname : RunsEven header.1)
    (hvalue : RunsEven header.2) : IsPhrase (headerText header) := by
  have htext : headerText header = "\n\t.header" ++ enclosed '(' ')'
      (enclosed singleMark singleMark (escapeSingle header.1) ++
        "," ++ enclosed singleMark singleMark (escapeSingle header.2)) := by
    have hstart : ("\n\t.header('" : Text) = "\n\t.header" ++ [.char '(', singleMark] := by
      decide
    have hbetween : ("','" : Text) = singleMark :: "," ++ [singleMark] := by decide
    have hstop : ("')" : Text) = [singleMark, .char ')'] := by decide
    simp only [headerText, hstart, hbetween, hstop, enclosed, List.append_assoc, List.cons_append,
      List.nil_append]
  have hstring : ∀ {t : Text}, RunsEven t →
      Closed (enclosed singleMark singleMark (escapeSingle t)) := fun h =>
    closed_string (by decide) (by decide) (inside_escapeSingle h)
  rw [htext]
  exact phrase_append (phrase_quiet (by decide)) (phrase_bracketed (by decide)
    (closed_append (closed_append (hstring hname) (closed_inert (by decide))) (hstring hvalue)))

/-! ## Numbers -/

theorem intText_inert {n : Int} {c : CodePoint} (hc : c ∈ intText n) :
    isInert c = true ∧ c ≠ backslash := by
  rcases intText_mem hc with hdigit | rfl
  · refine ⟨isInert_of_class (by decide) hdigit, ?_⟩
    rintro rfl
    exact absurd hdigit (by decide)
  · decide

/-! ## Modifiers -/

theorem kindName_quiet (kind : ModifierKind) :
    ∀ c ∈ ("\n\t." : Text) ++ kind.name, isQuiet c = true := by
  cases kind with
  | many k => cases k <;> decide
  | one k => cases k <;> decide

theorem escapeSingle_inert {t : Text} (h : ∀ c ∈ t, isInert c = true) : escapeSingle t = t := by
  refine escapeSingle_eq_self fun hmark => ?_
  exact absurd (h singleMark hmark) (by decide)

/-- A count stands outside of strings. -/
theorem closed_valueText {m : Modifier} (hcount : isCount m.kind = true) (h : IsClosed m) :
    Closed (valueText m) := by
  cases m with
  | many kind values => cases kind <;> cases hcount
  | one kind value =>
      cases value with
      | text t =>
          rw [Modifier.kind] at hcount
          rw [IsClosed, if_pos hcount] at h
          rw [valueText, escapeSingle_inert h]
          exact closed_inert h
      | int n => exact closed_inert fun c hc => (intText_inert hc).1

/-- Any other value stands in a string, and does not leave it. -/
theorem inside_valueText {m : Modifier} (hcount : isCount m.kind = false) (h : IsClosed m) :
    Inside singleMark (valueText m) := by
  cases m with
  | many kind values => exact inside_escapeSingle h
  | one kind value =>
      cases value with
      | text t =>
          rw [Modifier.kind] at hcount
          rw [IsClosed, if_neg (by rw [hcount]; decide)] at h
          exact inside_escapeSingle h
      | int n =>
          refine inside_plain fun c hc => ?_
          exact ⟨ne_of_isInert (intText_inert hc).1 (by decide), (intText_inert hc).2⟩

theorem phrase_modifierText {m : Modifier} (h : IsClosed m) : IsPhrase (modifierText m) := by
  rw [modifierText]
  cases hcount : isCount m.kind with
  | true =>
      have hstart : callStart m.kind = ("\n\t." : Text) ++ m.kind.name ++ [.char '('] := by
        rw [callStart, if_pos hcount]
        rfl
      rw [callEnd, if_pos hcount]
      exact phrase_bareCall _ hstart (kindName_quiet m.kind) (closed_valueText hcount h)
  | false =>
      have hno : ¬isCount m.kind = true := by rw [hcount]; decide
      have hstart : callStart m.kind =
          ("\n\t." : Text) ++ m.kind.name ++ [.char '(', singleMark] := by
        rw [callStart, if_neg hno]
        rfl
      rw [callEnd, if_neg hno]
      exact phrase_quotedCall _ hstart (kindName_quiet m.kind) (inside_valueText hcount h)

/-! ## The preamble -/

/-- The options that the client is made with. -/
def optionsDeclaration : Declaration :=
  ⟨.fixed, "options", "\x7b\n\tauthProvider,\n\x7d"⟩

/-- The client. -/
def clientDeclaration : Declaration :=
  ⟨.fixed, "client", "Client.init(options)"⟩

theorem isPlain_optionsDeclaration : optionsDeclaration.IsPlain where
  name := by decide
  value := by
    have htext : optionsDeclaration.value = enclosed '{' '}' "\n\tauthProvider,\n" := by decide
    rw [htext]
    exact phrase_bracketed (by decide) (closed_inert (by decide))

theorem isPlain_clientDeclaration : clientDeclaration.IsPlain where
  name := by decide
  value := by
    have htext : clientDeclaration.value = "Client.init(" ++ "options" ++ ")" := by decide
    rw [htext]
    exact phrase_bareCall "Client.init" (by decide) (by decide) (closed_inert (by decide))

/-- Two declarations stand before anything else. -/
theorem preambleText_eq : preambleText =
    optionsDeclaration.text ++ blankLine ++ (clientDeclaration.text ++ blankLine) := by
  decide +kernel

theorem closed_preambleText : Closed preambleText := by
  have hblank : Closed blankLine := closed_inert (by decide)
  rw [preambleText_eq]
  exact closed_append (closed_append isPlain_optionsDeclaration.closed_text hblank)
    (closed_append isPlain_clientDeclaration.closed_text hblank)

/-! ## Parts -/

theorem hasBody_iff {r : Request} :
    r.hasBody = true ↔ ∃ body, r.body = some body ∧ Text.allBlank body = false := by
  rw [Request.hasBody]
  cases r.body with
  | none => simp only [Bool.false_eq_true, reduceCtorEq, false_and, exists_false]
  | some body => simp only [Bool.not_eq_true', Option.some.injEq, exists_eq_left']

/-- The name is the one that the request gives, or has one more character. -/
theorem forall_mem_variableText {r : Request} {p : CodePoint → Prop}
    (hname : ∀ c ∈ r.variableName, p c) (hadded : p '_') : ∀ c ∈ variableText r, p c := by
  rw [variableText]
  split_ifs
  · rw [List.forall_mem_append]
    exact ⟨hname, fun c hc => by rw [List.mem_singleton.mp hc]; exact hadded⟩
  · exact hname

section

variable {r : Request} (hr : LocallyClosed r)

include hr

theorem phrase_queryText (hget : r.method = "GET") : IsPhrase (queryText r) := by
  rw [queryText]
  refine phrase_append (phrase_flatMap fun header hheader => ?_) ?_
  · rw [List.mem_filter, decide_eq_true_eq] at hheader
    have hruns := hr.headers hget header hheader.1 hheader.2
    exact phrase_headerText hruns.1 hruns.2
  · by_cases hcustom : r.customOptions = []
    · rw [if_pos hcustom]
      refine phrase_flatMap fun kind _ => ?_
      unfold kindText
      split
      · exact phrase_nil
      · exact phrase_nil
      · next m _ hfind => exact phrase_modifierText (hr.modifiers hget hcustom kind m hfind)
    · rw [if_neg hcustom]
      exact phrase_nil

omit hr in
theorem phrase_versionText : IsPhrase (versionText r) := by
  rw [versionText]
  by_cases hversion : r.apiVersion = "beta"
  · have htext : ("\n\t.version('beta')" : Text) = "\n\t.version('" ++ "beta" ++ "')" := by
      decide
    rw [if_pos hversion, htext]
    exact phrase_quotedCall "\n\t.version" (by decide) (by decide) (inside_plain (by decide))
  · rw [if_neg hversion]
    exact phrase_nil

theorem phrase_requestText : IsPhrase (requestText r) :=
  phrase_append
    (phrase_quotedCall "let res = await client.api" (by decide) (by decide) (inside_plain hr.path))
    phrase_versionText

section

variable {body : Text} (hsends : sendsBody r.method = true) (hbody : r.body = some body)
  (hblank : Text.allBlank body = false)

include hsends hbody hblank

theorem closed_variableText : Closed (variableText r) :=
  closed_inert (forall_mem_variableText (hr.body hsends body hbody hblank).1 (by decide))

/-- A body is a document, so its keys are known apart from its strings. -/
theorem phrase_literal : IsPhrase (unquoted (Text.trim body)) := by
  rcases (hr.body hsends body hbody hblank).2.2 with ⟨d, hd, hkeys⟩
  rw [← hd, d.unquoted_text]
  exact d.phrase_bare hkeys

end

theorem closed_declarationText (hsends : sendsBody r.method = true) : Closed (declarationText r) := by
  unfold declarationText
  cases hbody : r.body with
  | none => exact closed_nil
  | some body =>
      simp only
      by_cases hblank : Text.allBlank body = true
      · rw [if_pos hblank]
        exact closed_nil
      · rw [if_neg hblank]
        rw [Bool.not_eq_true] at hblank
        have hliteral := (phrase_literal hr hsends hbody hblank).closed
        have hname := closed_variableText hr hsends hbody hblank
        exact closed_append
          (closed_append (closed_append (closed_append (closed_inert (by decide)) hname)
            (closed_inert (by decide))) hliteral)
          (closed_inert (by decide))

theorem closed_argumentText (hsends : sendsBody r.method = true) : Closed (argumentText r) := by
  unfold argumentText
  by_cases hhas : r.hasBody = true
  · rw [if_pos hhas]
    rcases hasBody_iff.mp hhas with ⟨body, hbody, hblank⟩
    have hname := closed_variableText hr hsends hbody hblank
    cases hlast : r.lastSegment? with
    | none => exact hname
    | some s =>
        simp only
        by_cases hoperation : s.isOperation = true
        · rw [if_pos hoperation]
          exact hname
        · rw [if_neg hoperation]
          have htype := closed_inert ((hr.body hsends body hbody hblank).2.1 s hlast)
          have htext : "\x7b" ++ s.shortTypeName ++ ": " ++ variableText r ++ "\x7d" =
              enclosed '{' '}' (s.shortTypeName ++ ": " ++ variableText r) := by
            have hopen : ("\x7b" : Text) = [.char '{'] := by decide
            have hclose : ("\x7d" : Text) = [.char '}'] := by decide
            simp only [hopen, hclose, enclosed, List.append_assoc, List.cons_append, List.nil_append]
          rw [htext]
          exact closed_bracketed (by decide)
            (closed_append (closed_append htype (closed_inert (by decide))) hname)
  · rw [if_neg hhas]
    exact closed_nil

omit hr in
/-- A call that passes something on ends the statement. -/
theorem statement_passing (name : Text) {start argument : Text}
    (hstart : start = name ++ [.char '(']) (hname : ∀ c ∈ name, isQuiet c = true)
    (hargument : Closed argument) : IsStatement (start ++ argument ++ ");") := by
  have hend : (");" : Text) = ")" ++ [endMark] := by decide
  refine ⟨start ++ argument ++ ")", by rw [hend, List.append_assoc _ _ [endMark]], ?_⟩
  exact phrase_bareCall name hstart hname hargument

omit hr in
/-- A call that passes nothing on ends the statement. -/
theorem statement_plain (name : Text) {call : Text}
    (hcall : call = name ++ [.char '(', .char ')', endMark])
    (hname : ∀ c ∈ name, isQuiet c = true) : IsStatement call := by
  refine ⟨name ++ enclosed '(' ')' [], by rw [hcall, List.append_assoc]; rfl, ?_⟩
  exact phrase_append (phrase_quiet hname) (phrase_bracketed (by decide) closed_nil)

theorem statement_verbText : IsStatement (verbText r.method (argumentText r)) := by
  rw [verbText]
  split_ifs with hget hpost hpatch hput
  · exact statement_plain "\n\t.get" (by decide) (by decide)
  · have hargument := closed_argumentText hr (by rw [hpost]; decide)
    exact statement_passing "\n\t.post" (by decide) (by decide) hargument
  · have hargument := closed_argumentText hr (by rw [hpatch]; decide)
    exact statement_passing "\n\t.update" (by decide) (by decide) hargument
  · have hargument := closed_argumentText hr (by rw [hput]; decide)
    exact statement_passing "\n\t.put" (by decide) (by decide) hargument
  · exact statement_plain "\n\t.delete" (by decide) (by decide)

theorem statement_callsText : IsStatement (callsText r) := by
  rw [callsText]
  split_ifs with hget
  · exact statement_append (phrase_queryText hr hget)
      (statement_plain "\n\t.get" (by decide) (by decide))
  · exact statement_verbText hr

/-- The text of a snippet is closed, and ends a statement. -/
theorem endsStatement_snippetText : EndsStatement (snippetText r) := by
  -- A declaration is made for the methods that send a body, and is closed if it is.
  have hdeclaration : Closed
      (if r.method = "POST" ∨ r.method = "PATCH" ∨ r.method = "PUT" then declarationText r
        else []) := by
    split_ifs with hsends
    · exact closed_declarationText hr (sendsBody_iff.mpr hsends)
    · exact closed_nil
  exact endsStatement_append (closed_append closed_preambleText hdeclaration)
    (statement_append (phrase_requestText hr) (statement_callsText hr)).endsStatement

end

/-- A snippet has no flaws if what the request puts into it does not leave its place. -/
theorem flaws_javaScript {r : Request} {t : Text} (h : render javaScript r = .ok t)
    (hr : LocallyClosed r) : flawMessages t = [] := by
  rcases render_eq_ok.mp h with ⟨verb, hverb, _, hassemble⟩
  rw [flawMessages, assemble_eq hverb hassemble, flaws_eq_nil (endsStatement_snippetText hr),
    List.map_nil]

/-- The body of the request that is posted, taken apart. -/
def postedBody : Document where
  before := .none
  value := .object .none (.last (.mk ⟨plainLetters "a b " (by decide), .blank⟩ .blank
    (.string (plainLetters "x" (by decide) ++ .mark :: plainLetters "y:" (by decide))) .none))
  after := .none

theorem locallyClosed_posted : LocallyClosed posted where
  path := by decide
  headers hget := absurd hget (by decide)
  modifiers hget := absurd hget (by decide)
  body _ body hbody _ := by
    refine ⟨by decide, ?_, postedBody, ?_, ?_⟩
    · intro s hs
      rw [← Option.some.inj hs]
      decide
    · rw [← Option.some.inj hbody]
      decide
    · intro k hk
      rw [List.mem_singleton.mp hk]
      decide

theorem flaws_javaScript_posted :
    render javaScript posted = .ok postedSnippet.val ∧ LocallyClosed posted ∧
      flawMessages postedSnippet.val = [] := by
  have hrender := postedSnippet.property
  exact ⟨hrender, locallyClosed_posted, flaws_javaScript hrender locallyClosed_posted⟩

end JavaScript

end CallSnippets
