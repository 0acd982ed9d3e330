import CallSnippets.Proofs.Snippet.Nested

/-!
# Statements of a text

A text is cut into statements at the marks that end them, as far as these stand outside of strings and
brackets. What a statement declares can be seen from its start: a keyword, a name, and the rest.

A phrase is a closed text that no statement ends in. Phrases are put together like closed texts, and a
closed text between brackets is a phrase whatever marks are in it. This is where it matters that a closed
text is nested: in the middle of it the walk may be anywhere, but never outside of the brackets that it
started in, and this is seen from the rules of nested texts and not from where the walk comes out.

Each declaration of a row of them is a phrase and an end mark, so the row is cut where it was put
together, and its names are found in their order.

## Main definitions

* `statements`: The pieces of a text between the ends of statements.
* `Keyword`, `declaredName?`, `declaredNames`: The names that a text declares.
* `Passes`: No statement ends in a text, for the walk from a state.
* `isQuiet`: The character opens, closes and ends nothing.
* `IsPhrase`, `IsStatement`: Parts of statements, and statements with their end marks.
* `Declaration`: A declaration of a variable.

## Theorems

* `Nested.passes`: No statement ends in a nested text between brackets.
* `phrase_append`, `phrase_flatMap`, `phrase_quiet`, `phrase_bracketed`, `phrase_string`: Phrases.
* `statements_phrase`: A statement is cut off at its end mark.
* `declaredNames_join`: The names that a row of declarations declares.
-/

namespace CallSnippets

/-- The pieces of a text between the marks that end statements, given the state that the walk comes to the
    text in. A mark in a string or between brackets ends nothing. -/
def statements (s : ScanState) : Text → List Text
  | [] => [[]]
  | c :: rest =>
    if c = endMark ∧ s.mode = .code ∧ s.openers = [] then [] :: statements (s.step c) rest
    else (statements (s.step c) rest).modifyHead (c :: ·)

/-- The words that declarations start with. -/
inductive Keyword where
  /-- The variable keeps its value. -/
  | fixed
  /-- The variable may be given another value. -/
  | changing
  deriving DecidableEq, Repr

/-- The keyword as it is written. -/
def Keyword.text : Keyword → Text
  | fixed => "const"
  | changing => "let"

/-- The character ends the name of a variable. -/
def stopsName (c : CodePoint) : Bool :=
  Text.isBlank c || c = '='

/-- The name that a statement declares, if it is a declaration. -/
def declaredName? (statement : Text) : Option Text :=
  let t := Text.trimStart statement
  ([Keyword.fixed, .changing].findSome? fun k => Text.dropStart? (k.text ++ " ") t).map
    fun rest => rest.takeWhile fun c => !stopsName c

/-- The names that the statements of a text declare. -/
def declaredNames (t : Text) : List Text :=
  (statements .start t).filterMap declaredName?

/-! ## Texts that no statement ends in -/

/-- No statement ends in the text, for the walk from a state. -/
def Passes (s : ScanState) (t : Text) : Prop :=
  ∀ rest, statements s (t ++ rest) = (statements (scan s t) rest).modifyHead (t ++ ·)

section

variable {s : ScanState} {c : CodePoint} {a b t : Text}

theorem passes_nil : Passes s [] := by
  intro rest
  exact (congrFun List.modifyHead_id _).symm

theorem passes_append (ha : Passes s a) (hb : Passes (scan s a) b) : Passes s (a ++ b) := by
  intro rest
  rw [List.append_assoc, ha, hb, scan_append, List.modifyHead_modifyHead]
  congr 1
  funext piece
  exact (List.append_assoc ..).symm

theorem passes_cons (hc : ¬(c = endMark ∧ s.mode = .code ∧ s.openers = []))
    (ht : Passes (s.step c) t) : Passes s (c :: t) := by
  intro rest
  rw [List.cons_append, statements, if_neg hc, ht, scan_cons, List.modifyHead_modifyHead]
  rfl

theorem StringText.passes {mark : CodePoint} {line : Nat} (h : StringText mark t)
    (hs : s.mode = .string mark line false) : Passes s t := by
  induction h generalizing s with
  | nil => exact passes_nil
  | plain hmark hback hrest ih =>
      refine passes_cons (by simp [hs]) (ih ?_)
      simp only [ScanState.step, hs, ScanState.stepString, Bool.false_eq_true, if_false,
        if_neg hback, if_neg hmark]
  | escape hrest ih =>
      -- The walk is in the string behind the backslash and behind the character that it takes.
      have hfirst : (s.step backslash).mode = .string mark line true := by
        simp only [ScanState.step, hs, ScanState.stepString, Bool.false_eq_true, if_false, if_true]
      refine passes_cons (by simp [hs]) (passes_cons (by simp [hfirst]) (ih ?_))
      rw [ScanState.step]
      simp only [hfirst, ScanState.stepString, if_true]

theorem passes_string {mark : CodePoint} (hmark : mark ∈ quoteMarks) (h : StringText mark t)
    (hs : s.mode = .code) : Passes s (enclosed mark mark t) := by
  have hend : mark ≠ endMark := by
    rintro rfl
    exact absurd hmark (by decide)
  rw [enclosed, List.cons_append]
  refine passes_cons (fun h => hend h.1) ?_
  have hfirst := step_mark hs (isMark_iff.mpr hmark)
  refine passes_append (h.passes (by rw [hfirst])) (passes_cons (fun h => hend h.1) passes_nil)

theorem passes_bracketed {opener closer : CodePoint} (hpair : (opener, closer) ∈ brackets)
    (h : ∀ s : ScanState, s.mode = .code → s.openers ≠ [] → Passes s t) (hs : s.mode = .code) :
    Passes s (enclosed opener closer t) := by
  have hends : ∀ p ∈ brackets, p.1 ≠ endMark ∧ p.2 ≠ endMark ∧ isMark p.1 = false ∧
      isOpener p.1 = true := by decide
  rcases hends (opener, closer) hpair with ⟨hfirst, hlast, hmark, hopener⟩
  rw [enclosed, List.cons_append]
  refine passes_cons (fun h => hfirst h.1) ?_
  -- Inside the walk has one more bracket open, whatever was open before.
  rw [step_opener hs hmark hopener]
  exact passes_append (h _ hs (List.cons_ne_nil _ _)) (passes_cons (fun h => hlast h.1) passes_nil)

/-- No statement ends in a nested text that stands between brackets. -/
theorem Nested.passes (h : Nested t) (hs : s.mode = .code) (hopen : s.openers ≠ []) : Passes s t := by
  induction h generalizing s with
  | nil => exact passes_nil
  | other hc hrest ih =>
      refine passes_cons (fun h => hopen h.2.2) ?_
      rw [step_inert hs (isInert_iff.mpr hc)]
      exact ih hs hopen
  | bracketed hpair hinner hrest ihinner ihrest =>
      rcases closed_bracketed (isPair_of_mem hpair) hinner.closed s hs with ⟨line, hscan⟩
      refine passes_append (passes_bracketed hpair (fun _ => ihinner) hs) ?_
      rw [hscan]
      exact ihrest hs hopen
  | string hmark hinner hrest ih =>
      rcases closed_string (isMark_iff.mpr hmark) (ne_backslash_of_mark hmark) hinner.inside s hs with
        ⟨line, hscan⟩
      refine passes_append (passes_string hmark hinner hs) ?_
      rw [hscan]
      exact ih hs hopen

end

/-! ## Phrases -/

/-- The character opens, closes and ends nothing. -/
def isQuiet (c : CodePoint) : Bool :=
  isInert c && c ≠ endMark

/-- The text is closed, and no statement ends in it. -/
structure IsPhrase (t : Text) : Prop where
  /-- The text leaves the walk as it found it. -/
  closed : Closed t
  /-- No statement ends in it. -/
  passes : ∀ s : ScanState, s.mode = .code → Passes s t

/-- The text is a statement with its end mark. -/
def IsStatement (t : Text) : Prop :=
  ∃ phrase, t = phrase ++ [endMark] ∧ IsPhrase phrase

section

variable {a b t : Text}

theorem phrase_nil : IsPhrase [] :=
  ⟨closed_nil, fun _ _ => passes_nil⟩

theorem phrase_append (ha : IsPhrase a) (hb : IsPhrase b) : IsPhrase (a ++ b) where
  closed := closed_append ha.closed hb.closed
  passes s hs := by
    rcases ha.closed s hs with ⟨line, hscan⟩
    refine passes_append (ha.passes s hs) ?_
    rw [hscan]
    exact hb.passes _ hs

theorem phrase_flatMap {α : Type} {make : α → Text} {items : List α}
    (h : ∀ a ∈ items, IsPhrase (make a)) : IsPhrase (items.flatMap make) := by
  induction items with
  | nil => exact phrase_nil
  | cons a rest ih =>
      rw [List.flatMap_cons]
      exact phrase_append (h a (List.mem_cons_self ..)) (ih fun b hb => h b (List.mem_cons_of_mem a hb))

theorem isQuiet_iff {c : CodePoint} : isQuiet c = true ↔ isInert c = true ∧ c ≠ endMark := by
  rw [isQuiet, Bool.and_eq_true, decide_eq_true_eq]

theorem isQuiet_of_class {p : CodePoint → Bool} (hp : (endMark :: specials).all (fun c => !p c) = true)
    {c : CodePoint} (hc : p c = true) : isQuiet c = true := by
  rw [List.all_cons, Bool.and_eq_true, Bool.not_eq_true'] at hp
  refine isQuiet_iff.mpr ⟨isInert_of_class hp.2 hc, ?_⟩
  rintro rfl
  rw [hp.1] at hc
  exact absurd hc Bool.false_ne_true

theorem phrase_quiet (h : ∀ c ∈ t, isQuiet c = true) : IsPhrase t where
  closed := closed_inert fun c hc => (isQuiet_iff.mp (h c hc)).1
  passes := by
    induction t with
    | nil => exact fun _ _ => passes_nil
    | cons c rest ih =>
        intro s hs
        rcases isQuiet_iff.mp (h c (List.mem_cons_self ..)) with ⟨hinert, hend⟩
        refine passes_cons (fun h => hend h.1) ?_
        rw [step_inert hs hinert]
        exact ih (fun d hd => h d (List.mem_cons_of_mem c hd)) _ hs

/-- A closed text between brackets is a phrase, whatever end marks are in it. -/
theorem phrase_bracketed {opener closer : CodePoint} (hpair : (opener, closer) ∈ brackets)
    (ht : Closed t) : IsPhrase (enclosed opener closer t) where
  closed := closed_bracketed (isPair_of_mem hpair) ht
  passes _ hs := passes_bracketed hpair (fun _ => (closed_iff_nested.mp ht).passes) hs

theorem phrase_string {mark : CodePoint} (hmark : mark ∈ quoteMarks) (ht : StringText mark t) :
    IsPhrase (enclosed mark mark t) where
  closed := closed_string (isMark_iff.mpr hmark) (ne_backslash_of_mark hmark) ht.inside
  passes _ hs := passes_string hmark ht hs

theorem statement_append (ha : IsPhrase a) (hb : IsStatement b) : IsStatement (a ++ b) := by
  rcases hb with ⟨phrase, rfl, hphrase⟩
  exact ⟨a ++ phrase, (List.append_assoc ..).symm, phrase_append ha hphrase⟩

theorem IsStatement.endsStatement (h : IsStatement t) : EndsStatement t := by
  rcases h with ⟨phrase, rfl, hphrase⟩
  exact ⟨phrase, rfl, hphrase.closed⟩

/-- A statement is cut off at its end mark. -/
theorem statements_phrase {phrase rest : Text} {s : ScanState} (h : IsPhrase phrase)
    (hs : s.mode = .code) (hopeners : s.openers = []) :
    ∃ line, statements s (phrase ++ endMark :: rest) =
      phrase :: statements { s with line := line } rest := by
  rcases h.closed s hs with ⟨line, hscan⟩
  have hend : endMark = endMark ∧ s.mode = .code ∧ s.openers = [] := ⟨rfl, hs, hopeners⟩
  refine ⟨ScanState.lineAt line endMark, ?_⟩
  rw [h.passes s hs, hscan, statements, if_pos hend, List.modifyHead_cons, List.append_nil,
    step_inert (s := { s with line := line }) hs (by decide)]

end

/-! ## Declarations -/

/-- A declaration of a variable. -/
structure Declaration where
  /-- The word that it starts with. -/
  keyword : Keyword
  /-- The name of the variable. -/
  name : Text
  /-- What the variable is set to. -/
  value : Text
  deriving DecidableEq, Repr

namespace Declaration

/-- The variable with what it is set to. -/
def setting (d : Declaration) : Text :=
  d.name ++ " = " ++ d.value

/-- The declaration without its end mark. -/
def phrase (d : Declaration) : Text :=
  d.keyword.text ++ " " ++ d.setting

/-- The declaration as it is written. -/
def text (d : Declaration) : Text :=
  d.phrase ++ [endMark]

/-- The declaration is written so that its name can be told from the rest, and its end as well. -/
structure IsPlain (d : Declaration) : Prop where
  /-- The name goes up to the blank behind it. -/
  name : ∀ c ∈ d.name, isQuiet c = true ∧ stopsName c = false
  /-- The value is a phrase. -/
  value : IsPhrase d.value

theorem IsPlain.phrase {d : Declaration} (h : d.IsPlain) : IsPhrase d.phrase := by
  have hkeyword : IsPhrase d.keyword.text := phrase_quiet (by cases d.keyword <;> decide)
  have hname : IsPhrase d.name := phrase_quiet fun c hc => (h.name c hc).1
  exact phrase_append (phrase_append hkeyword (phrase_quiet (by decide)))
    (phrase_append (phrase_append hname (phrase_quiet (by decide))) h.value)

theorem IsPlain.closed_text {d : Declaration} (h : d.IsPlain) : Closed d.text :=
  closed_append h.phrase.closed (closed_inert (by decide))

theorem dropStart?_append (opening t : Text) : Text.dropStart? opening (opening ++ t) = some t := by
  induction opening with
  | nil => rfl
  | cons c rest ih => rw [List.cons_append, Text.dropStart?, if_pos rfl, ih]

theorem declaredName?_phrase (d : Declaration) {gap : Text}
    (hgap : ∀ c ∈ gap, Text.isBlank c = true) (h : d.IsPlain) :
    declaredName? (gap ++ d.phrase) = some d.name := by
  -- The keyword starts with a letter, and the two differ in it.
  have htrim : Text.trimStart (gap ++ d.phrase) = d.phrase := by
    rw [Text.trimStart, List.dropWhile_append_of_pos hgap, phrase]
    cases d.keyword <;> rfl
  have hkeyword : [Keyword.fixed, .changing].findSome? (fun k =>
      Text.dropStart? (k.text ++ " ") d.phrase) = some d.setting := by
    rw [phrase]
    cases d.keyword with
    | fixed => rw [List.findSome?_cons, dropStart?_append]
    | changing => rw [List.findSome?_cons, List.findSome?_cons, dropStart?_append]; rfl
  have hname : d.setting.takeWhile (fun c => !stopsName c) = d.name := by
    have hkeep : ∀ c ∈ d.name, (!stopsName c) = true := fun c hc => by rw [(h.name c hc).2]; rfl
    rw [setting, List.append_assoc, List.takeWhile_append_of_pos hkeep]
    exact List.append_nil d.name
  rw [declaredName?, htrim, hkeyword, Option.map_some, hname]

end Declaration

/-- What stands between two declarations. -/
abbrev blankLine : Text :=
  "\n\n"

theorem isQuiet_of_isBlank {c : CodePoint} (hc : Text.isBlank c = true) : isQuiet c = true :=
  isQuiet_of_class (by decide) hc

theorem declaredName?_blank {gap : Text} (h : ∀ c ∈ gap, Text.isBlank c = true) :
    declaredName? gap = none := by
  have htrim : Text.trimStart gap = [] := List.dropWhile_eq_nil_iff.mpr h
  rw [declaredName?, htrim]
  rfl

theorem join_cons (t : Text) (texts : List Text) :
    ∃ gap : Text, (∀ c ∈ gap, Text.isBlank c = true) ∧
      Text.join blankLine (t :: texts) = t ++ (gap ++ Text.join blankLine texts) := by
  cases texts with
  | nil => exact ⟨[], fun c hc => absurd hc List.not_mem_nil, (List.append_nil t).symm⟩
  | cons next more => exact ⟨blankLine, by decide, List.append_assoc ..⟩

/-- A row of declarations behind blanks is cut into its declarations. -/
theorem filterMap_statements {ds : List Declaration} (h : ∀ d ∈ ds, d.IsPlain) (gap : Text)
    (hgap : ∀ c ∈ gap, Text.isBlank c = true) {s : ScanState} (hs : s.mode = .code)
    (hopeners : s.openers = []) :
    (statements s (gap ++ Text.join blankLine (ds.map Declaration.text))).filterMap declaredName? =
      ds.map Declaration.name := by
  -- Behind an end mark the walk is where it started, with the blank line before the next declaration.
  induction ds generalizing gap s with
  | nil =>
      have hphrase : IsPhrase gap := phrase_quiet fun c hc => isQuiet_of_isBlank (hgap c hc)
      rw [List.map_nil, Text.join, hphrase.passes s hs, statements, List.modifyHead_cons,
        List.append_nil, List.filterMap_cons_none (declaredName?_blank hgap)]
      rfl
  | cons d rest ih =>
      have hd := h d (List.mem_cons_self ..)
      have hphrase : IsPhrase (gap ++ d.phrase) :=
        phrase_append (phrase_quiet fun c hc => isQuiet_of_isBlank (hgap c hc)) hd.phrase
      rcases join_cons d.text (rest.map Declaration.text) with ⟨behind, hbehind, hjoin⟩
      have htext : gap ++ Text.join blankLine ((d :: rest).map Declaration.text) =
          gap ++ d.phrase ++ endMark :: (behind ++ Text.join blankLine (rest.map Declaration.text)) := by
        rw [List.map_cons, hjoin, Declaration.text, List.append_assoc, List.append_assoc,
          List.singleton_append]
      rcases statements_phrase hphrase hs hopeners with ⟨line, hcut⟩
      have hrest := ih (fun e he => h e (List.mem_cons_of_mem d he)) behind hbehind
        (s := { s with line := line }) hs hopeners
      rw [htext, hcut, List.filterMap_cons_some (d.declaredName?_phrase hgap hd), hrest, List.map_cons]

/-- The names that a row of declarations declares. -/
theorem declaredNames_join {ds : List Declaration} (h : ∀ d ∈ ds, d.IsPlain) :
    declaredNames (Text.join blankLine (ds.map Declaration.text)) = ds.map Declaration.name :=
  filterMap_statements h [] (fun _ hc => absurd hc List.not_mem_nil) rfl rfl

end CallSnippets
