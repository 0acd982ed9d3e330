import CallSnippets.Proofs.Command.Call
import CallSnippets.Proofs.Files.Alike

/-!
# Runs that have their snippets checked

There are two ways to have snippets checked. A flag may be put right behind the name of the command. What
stands before the name says the same as before, for the line of the program ends with the name whatever
follows. And behind it the flag only adds its own mention: nothing is objected to it, and what is said of
other options stays as it was.

Or the file of settings may say so. The tree is another one then, but nothing in it differs except what is
in that file. The words still say the same, for what is objected to them does not depend on what is in
files, and the settings are the same but for the checks.

## Main definitions

* `checkRule`: The flag that has snippets checked.
* `BatchStart.Edited`: The file of settings says in addition that snippets are checked.

## Theorems

* `readWords_outer`: The line of the program ends with the first word that is no option.
* `optionObjection_eq_none`: Nothing is objected to options if nothing is objected to each of them.
* `openLine_eq_ok`: When a command line is accepted.
* `BatchStart.checked`: A run of the command with the flag that has snippets checked.
* `BatchStart.Edited.start`: A run of the command with the file of settings that says so.
-/

namespace CallSnippets

open FileTree

/-- The flag that has snippets checked. -/
def checkRule : OptionRule :=
  ⟨.check, none, none, "Run structural checks on generated snippets."⟩

/-- The mention of the flag. -/
def checkMention : Mention :=
  ⟨checkRule, []⟩

namespace CommandLine

variable {rules : List OptionRule} {words rest : List Text} {name : Text} {line : CommandLine}
  {t : FileTree}

/-! ## How words are read -/

theorem map_after_eq_ok {mentions : List Mention} {x : Except Misuse CommandLine}
    (h : x.map (after mentions) = .ok line) : ∃ inner, x = .ok inner ∧ line = after mentions inner := by
  cases x with
  | error e => cases h
  | ok inner => exact ⟨inner, rfl, (Except.ok.inj h).symm⟩

/-- The line of the program ends with the first word that is no option, whatever follows that. -/
theorem readWords_outer (h : readWords true rules words = .ok line) (hwords : line.words = name :: rest) :
    ∃ lead, words = lead ++ name :: rest ∧ ∀ rest',
      readWords true rules (lead ++ name :: rest') = .ok { line with words := name :: rest' } := by
  -- The cases are those of the reader. The name is the first word that is no option, or the one behind two
  -- dashes, and the words before it are read in the same way whatever follows.
  fun_induction CommandLine.readWords true rules words generalizing line with
  | case1 => cases h; cases hwords
  | case2 others =>
      cases h
      refine ⟨["--"], by rw [List.singleton_append, ← hwords], fun rest' => ?_⟩
      rw [List.singleton_append, readWords, if_pos rfl]
  | case3 _ _ _ _ _ _ => cases h
  | case4 word others hend hoption mentions hword ih =>
      rcases map_after_eq_ok h with ⟨inner, hinner, rfl⟩
      rcases ih hinner hwords with ⟨lead, rfl, hlead⟩
      refine ⟨word :: lead, rfl, fun rest' => ?_⟩
      rw [List.cons_append, readWords, if_neg hend, if_pos hoption, hword]
      simp only
      rw [hlead, map_ok]
      rfl
  | case5 _ _ _ _ _ _ _ => cases h
  | case6 word hend hoption mentions rule form hword value others ih =>
      rcases map_after_eq_ok h with ⟨inner, hinner, rfl⟩
      rcases ih hinner hwords with ⟨lead, rfl, hlead⟩
      refine ⟨word :: value :: lead, rfl, fun rest' => ?_⟩
      rw [List.cons_append, List.cons_append, readWords, if_neg hend, if_pos hoption, hword]
      simp only
      rw [hlead, map_ok]
      rfl
  | case7 word others hend hoption _ =>
      cases h
      cases hwords
      refine ⟨[], rfl, fun rest' => ?_⟩
      rw [List.nil_append, readWords, if_neg hend, if_neg hoption, if_pos rfl]
  | case8 _ _ _ _ houter _ => exact absurd rfl houter

/-! ## Objections -/

/-- Nothing is objected to options if nothing is objected to each of them. -/
theorem optionObjection_eq_none : ((line.optionObjection rules : StateM FileTree _) t).1 = none ↔
    ∀ rule ∈ rules, ∀ kind value, rule.kind? = some kind → line.value? rule.name = some value →
      ((objectionTo kind rule.name.longName value : StateM FileTree _) t).1 = none := by
  induction rules with
  | nil => exact ⟨fun _ _ hrule => absurd hrule List.not_mem_nil, fun _ => rfl⟩
  | cons rule others ih =>
      rw [List.forall_mem_cons, ← ih, optionObjection]
      cases hkind : rule.kind? with
      | none => simp only [reduceCtorEq, false_implies, implies_true, true_and]
      | some kind =>
          cases hvalue : line.value? rule.name with
          | none => simp only [reduceCtorEq, false_implies, implies_true, true_and]
          | some value =>
              have hself : (∀ kind' value', some kind = some kind' → some value = some value' →
                  ((objectionTo kind' rule.name.longName value' : StateM FileTree _) t).1 = none) ↔
                  ((objectionTo kind rule.name.longName value : StateM FileTree _) t).1 = none := by
                refine ⟨fun h => h kind value rfl rfl, ?_⟩
                rintro h kind' value' ⟨⟩ ⟨⟩
                exact h
              rw [hself]
              simp only
              rw [run_bind, (looks_objectionTo _ _ _).run]
              cases ((objectionTo kind rule.name.longName value : StateM FileTree _) t).1 with
              | none => simp only [true_and]
              | some objection => simp only [run_pure, reduceCtorEq, false_and]

/-- The last mention of an option counts, so one before all others does not. -/
theorem value?_after {m : Mention} {rule : OptionRule} (h : rule ∈ line.mentions.map Mention.rule) :
    (after [m] line).value? rule.name = line.value? rule.name := by
  have hvalues : (after [m] line).values rule.name =
      if m.rule.name = rule.name then m.value :: line.values rule.name else line.values rule.name := by
    rw [values, after, List.singleton_append, List.filter_cons]
    by_cases hname : m.rule.name = rule.name
    · rw [if_pos (decide_eq_true hname), if_pos hname]
      rfl
    · rw [if_neg (by simpa using hname), if_neg hname]
      rfl
  rw [value?, value?, hvalues]
  split
  · cases hold : line.values rule.name with
    | cons first others => rw [List.getLast?_cons_cons]
    | nil =>
        -- The option is mentioned, so it has a value.
        rcases List.mem_map.mp h with ⟨mention, hmention, rfl⟩
        have hmem : mention.value ∈ line.values mention.rule.name :=
          List.mem_map.mpr ⟨mention, List.mem_filter.mpr ⟨hmention, by simp only [decide_true]⟩, rfl⟩
        rw [hold] at hmem
        exact absurd hmem List.not_mem_nil
  · rfl

theorem run_objection (c : CommandRule) (line : CommandLine) (t : FileTree) :
    ((line.objection c : StateM FileTree _) t).1 = none ↔
      ((line.optionObjection (line.mentions.map Mention.rule).eraseDups : StateM FileTree _) t).1 = none ∧
      (c.isOuter = false → ((wordObjection c line.words : StateM FileTree _) t).1 = none) := by
  rw [objection, run_bind, (looks_optionObjection _ _).run]
  cases ((line.optionObjection (line.mentions.map Mention.rule).eraseDups : StateM FileTree _) t).1 with
  | some objection => simp only [run_pure, reduceCtorEq, false_and]
  | none =>
      simp only [true_and]
      cases c.isOuter with
      | true => simp only [if_true, run_pure, reduceCtorEq, false_implies]
      | false => simp only [if_neg Bool.false_ne_true, true_implies]

/-- A command line is accepted if it can be read, no help is asked for, and nothing is objected to. -/
theorem openLine_eq_ok {c : CommandRule} :
    ((openLine c words : StateM FileTree _) t).1 = .ok line ↔
      read c words = .ok line ∧ line.has .help = false ∧
        ((line.objection c : StateM FileTree _) t).1 = none := by
  rw [openLine]
  cases hread : read c words with
  | error misuse => simp only [run_pure, reduceCtorEq, false_and]
  | ok inner =>
      simp only [Except.ok.injEq]
      cases hhelp : inner.has .help with
      | true =>
          refine ⟨fun h => (by cases h), ?_⟩
          rintro ⟨rfl, hno, _⟩
          rw [hhelp] at hno
          cases hno
      | false =>
          rw [if_neg Bool.false_ne_true, run_bind, (looks_objection _ _).run]
          cases hobjection : ((inner.objection c : StateM FileTree _) t).1 with
          | none =>
              refine ⟨fun h => ?_, ?_⟩
              · cases h
                exact ⟨rfl, hhelp, hobjection⟩
              · rintro ⟨rfl, _, _⟩
                rfl
          | some objection =>
              refine ⟨fun h => (by cases h), ?_⟩
              rintro ⟨rfl, _, hnone⟩
              rw [hobjection] at hnone
              cases hnone

/-! ## What stands behind the name -/

/-- A flag that is mentioned before all other options does not change what is objected to. -/
theorem objection_flag {c : CommandRule} {m : Mention} (hflag : m.rule.kind? = none)
    (h : ((line.objection c : StateM FileTree _) t).1 = none) :
    (((after [m] line).objection c : StateM FileTree _) t).1 = none := by
  rw [run_objection, optionObjection_eq_none] at h ⊢
  refine ⟨fun rule hrule kind value hkind hvalue => ?_, h.2⟩
  rcases List.mem_cons.mp (List.mem_eraseDups.mp hrule) with rfl | hold
  · rw [hflag] at hkind
    cases hkind
  · rw [value?_after hold] at hvalue
    exact h.1 rule (List.mem_eraseDups.mpr hold) kind value hkind hvalue

/-- The words of a command with a flag before them. -/
theorem openLine_flag {c : CommandRule} {m : Mention} {word : Text}
    (hread : ∀ rest, read c (word :: rest) = (read c rest).map (after [m]))
    (hflag : m.rule.kind? = none) (hhelp : m.rule.name ≠ .help)
    (h : ((openLine c words : StateM FileTree _) t).1 = .ok line) :
    ((openLine c (word :: words) : StateM FileTree _) t).1 = .ok (after [m] line) := by
  rcases openLine_eq_ok.mp h with ⟨hline, hasked, hnone⟩
  refine openLine_eq_ok.mpr ⟨by rw [hread, hline, map_ok], ?_, objection_flag hflag hnone⟩
  rw [← hasked, has, has, values, after, List.singleton_append,
    List.filter_cons_of_neg (by simpa using hhelp)]
  rfl

/-! ## What stands before the name -/

theorem optionObjection_words (line : CommandLine) (words : List Text) (rules : List OptionRule) :
    ({ line with words } : CommandLine).optionObjection rules =
      (line.optionObjection rules : StateM FileTree _) := by
  induction rules with
  | nil => rfl
  | cons rule others ih =>
      rw [optionObjection, optionObjection, ih]
      rfl

/-- The line of the program says the same whatever follows the name of the command. -/
theorem openLine_outer (h : ((openLine programRule words : StateM FileTree _) t).1 = .ok line)
    (hwords : line.words = name :: rest) :
    ∃ lead, words = lead ++ name :: rest ∧ ∀ rest',
      ((openLine programRule (lead ++ name :: rest') : StateM FileTree _) t).1 =
        .ok { line with words := name :: rest' } := by
  rcases openLine_eq_ok.mp h with ⟨hread, hasked, hnone⟩
  rcases readWords_outer hread hwords with ⟨lead, rfl, hlead⟩
  refine ⟨lead, rfl, fun rest' => openLine_eq_ok.mpr ⟨hlead rest', hasked, ?_⟩⟩
  rw [run_objection, optionObjection_words]
  exact ⟨((run_objection _ _ _).mp hnone).1, nofun⟩

end CommandLine

/-! ## Runs with the flag -/

/-- The flag that has snippets checked is read as such. -/
theorem read_check (rest : List Text) :
    CommandLine.read batchRule ("--check" :: rest) =
      (CommandLine.read batchRule rest).map (CommandLine.after [checkMention]) := by
  have hend : ¬Text.ofString "--check" = Text.ofString "--" := by decide
  have hoption : CommandLine.isOptionWord (Text.ofString "--check") = true := by decide
  have hword : OptionWord.ofWord batchRule.options (Text.ofString "--check") =
      .ok ⟨[checkMention], none⟩ := by rfl
  rw [CommandLine.read, CommandLine.readWords, if_neg hend, if_pos hoption, hword]
  rfl

/-- The flag may be put behind the name of the command, and nothing else is said by it. -/
theorem BatchStart.checked {env : Environment} {words : List Text} {t : FileTree}
    (b : BatchStart env words t) :
    ∃ lead, words = lead ++ ("batch" : Text) :: b.rest ∧
      ∃ b' : BatchStart env (lead ++ ("batch" : Text) :: "--check" :: b.rest) t,
        b'.options = { b.options with check := true } ∧ b'.settings = b.settings := by
  rcases CommandLine.openLine_outer b.opened b.named with ⟨lead, hwords, hlead⟩
  refine ⟨lead, hwords, ⟨⟨{ b.outer with words := _ }, "--check" :: b.rest, hlead _, rfl⟩, b.settings,
    b.line.after [checkMention], b.settled,
    CommandLine.openLine_flag read_check rfl (by decide) b.accepted⟩, ?_, rfl⟩
  rfl

/-! ## Runs with other settings -/

/-- The tree has become another one in which some files have other bytes. Among them is the file of
    settings, which says in addition that snippets are checked; the requests are those that they were. -/
structure BatchStart.Edited {env : Environment} {words : List Text} {t : FileTree}
    (b : BatchStart env words t) (differ : Place → Prop) (t' : FileTree) : Prop where
  /-- Only files differ. -/
  alike : Alike differ t t'
  /-- The file of settings says in addition that snippets are checked. -/
  settings : ∀ entries, b.settingsEntries t = .ok entries →
    ∃ entries', b.settingsEntries t' = .ok entries' ∧ SaysChecked entries entries'
  /-- The requests are the same. -/
  requests : ((CallSnippets.loadRequests b.options.source : StateM FileTree _) t').1 = b.loadRequests

/-- The same words call the command in such a tree, and the settings are the same but for the checks. -/
theorem BatchStart.Edited.start {env : Environment} {words : List Text} {t t' : FileTree}
    {b : BatchStart env words t} {differ : Place → Prop} (h : b.Edited differ t') :
    ∃ b' : BatchStart env words t',
      b'.options = b.options ∧ b'.settings = { b.settings with check := true } ∧
        b'.loadRequests = b.loadRequests := by
  have hopen {c : CommandRule} {words : List Text} {line : CommandLine}
      (hline : ((openLine c words : StateM FileTree _) t).1 = .ok line) :
      ((openLine c words : StateM FileTree _) t').1 = .ok line :=
    ((looks_openLine c words).again t t' h.alike.kindsKept ⟨line, hline⟩).trans hline
  -- The settings are taken apart into what the file says and what the environment makes of it.
  have hsettled := b.settled
  rw [b.loadSettings_eq] at hsettled
  rcases bind_eq_ok.mp hsettled with ⟨entries, hentries, hsettings⟩
  rcases h.settings entries hentries with ⟨entries', hentries', hsays⟩
  refine ⟨⟨⟨b.outer, b.rest, hopen b.opened, b.named⟩, { b.settings with check := true }, b.line, ?_,
    hopen b.accepted⟩, rfl, rfl, h.requests⟩
  rw [BatchWords.loadSettings_eq]
  exact bind_eq_ok.mpr ⟨entries', hentries', hsays.settingsOf hsettings⟩

end CallSnippets
