import CallSnippets.Proofs.Files.Path
import CallSnippets.Proofs.Text.Lower
import CallSnippets.Request.Name

/-!
# Names that are made from methods and paths

The name of a request without one of its own ends with the runs of letters and digits in its path. These runs
are fixed by the path: each starts behind other characters or at the start, and goes on as long as there are
letters and digits. They are what is left if every longest stretch of other characters is replaced by one
hyphen, the hyphens at both ends are cut off, and the text is brought into lower case.

What comes of this is made of small letters, digits and single hyphens between them. So nothing in it leads
to another directory, and making a name from it once more gives the same. Nothing of this is known of the
method, which is brought into lower case and else left as it is.

## Main definitions

* `HasRuns`: The longest runs of letters and digits in a text.
* `hyphenated`, `trimHyphens`: Hyphens for other characters, and a text without those at its ends.
* `IsSlug`: Words of small letters and digits with single hyphens between them.
* `NameRules`: Everything that is known of the name for a method and a path.

## Theorems

* `wordRuns_append_cons`: Runs go by the stretches of text between other characters.
* `hasRuns_iff`: The runs of a text.
* `slug_eq_lower`: Runs by way of hyphens.
* `slug_eq_self`: Making a name from one.
* `requestName_rules`: What is known of names.
-/

namespace CallSnippets

/-! ## Runs -/

/-- No character is a letter or digit. -/
def IsGap (t : Text) : Prop :=
  ∀ c ∈ t, isWordChar c = false

/-- There are characters, and all of them are letters and digits. -/
def IsRun (t : Text) : Prop :=
  t ≠ [] ∧ ∀ c ∈ t, isWordChar c = true

/-- The longest runs of letters and digits in a text, in order. -/
inductive HasRuns : Text → List Text → Prop where
  /-- There are no letters and digits. -/
  | none {t : Text} (hgap : IsGap t) : HasRuns t []
  /-- A run comes first, and ends at the end of the text or before a character that is no letter or
      digit. -/
  | next {gap run rest : Text} {runs : List Text} (hgap : IsGap gap) (hrun : IsRun run)
      (hends : ∀ c, rest.head? = some c → isWordChar c = false) (hrest : HasRuns rest runs) :
      HasRuns (gap ++ run ++ rest) (run :: runs)

variable {c : CodePoint} {a b t run rest : Text} {runs words : List Text}

theorem exists_wordPieces (t : Text) : ∃ piece pieces, wordPieces t = piece :: pieces := by
  cases t with
  | nil => exact ⟨[], [], rfl⟩
  | cons c rest =>
      rw [wordPieces]
      split
      · split <;> exact ⟨_, _, rfl⟩
      · exact ⟨_, _, rfl⟩

theorem wordPieces_cons {piece : Text} {pieces : List Text} (hc : isWordChar c = true)
    (h : wordPieces t = piece :: pieces) : wordPieces (c :: t) = (c :: piece) :: pieces := by
  rw [wordPieces, if_pos hc, h]

/-- A text is cut wherever there is no letter or digit. -/
theorem wordPieces_append_cons (hc : isWordChar c = false) (a b : Text) :
    wordPieces (a ++ c :: b) = wordPieces a ++ wordPieces b := by
  induction a with
  | nil => exact if_neg (by rw [hc]; exact Bool.false_ne_true)
  | cons d rest ih =>
      rcases exists_wordPieces rest with ⟨piece, pieces, hrest⟩
      rw [hrest] at ih
      rw [List.cons_append]
      by_cases hd : isWordChar d = true
      · rw [wordPieces_cons hd ih, wordPieces_cons hd hrest]
        rfl
      · rw [wordPieces, if_neg hd, wordPieces, if_neg hd, ih, hrest]
        rfl

/-- So the runs are those before and those behind such a place. -/
theorem wordRuns_append_cons (hc : isWordChar c = false) (a b : Text) :
    wordRuns (a ++ c :: b) = wordRuns a ++ wordRuns b := by
  rw [wordRuns, wordPieces_append_cons hc, List.filter_append]
  rfl

theorem wordRuns_gap_append (h : IsGap a) (b : Text) : wordRuns (a ++ b) = wordRuns b := by
  induction a with
  | nil => rfl
  | cons c rest ih =>
      rcases List.forall_mem_cons.mp h with ⟨hc, hrest⟩
      exact (wordRuns_append_cons hc [] (rest ++ b)).trans (ih hrest)

theorem wordPieces_of_run (h : ∀ c ∈ t, isWordChar c = true) : wordPieces t = [t] := by
  induction t with
  | nil => rfl
  | cons c rest ih =>
      rcases List.forall_mem_cons.mp h with ⟨hc, hrest⟩
      exact wordPieces_cons hc (ih hrest)

theorem wordRuns_of_run (h : IsRun t) : wordRuns t = [t] := by
  rw [wordRuns, wordPieces_of_run h.2]
  exact List.filter_cons_of_pos (by simpa using h.1)

/-- A run that ends is the first one. -/
theorem wordRuns_run_append (hrun : IsRun run)
    (hends : ∀ c, rest.head? = some c → isWordChar c = false) :
    wordRuns (run ++ rest) = run :: wordRuns rest := by
  cases rest with
  | nil =>
      rw [List.append_nil, wordRuns_of_run hrun]
      rfl
  | cons c rest =>
      have hc := hends c rfl
      have hskip : wordRuns (c :: rest) = wordRuns rest := wordRuns_append_cons hc [] rest
      rw [wordRuns_append_cons hc, wordRuns_of_run hrun, hskip]
      rfl

theorem HasRuns.wordRuns_eq (h : HasRuns t runs) : wordRuns t = runs := by
  induction h with
  | @none t hgap =>
      have hall := wordRuns_gap_append hgap []
      rwa [List.append_nil] at hall
  | next hgap hrun hends _ ih =>
      rw [List.append_assoc, wordRuns_gap_append hgap, wordRuns_run_append hrun hends, ih]

/-- Another character in front makes no run, and none longer. -/
theorem HasRuns.cons_gap (h : HasRuns t runs) (hc : isWordChar c = false) : HasRuns (c :: t) runs := by
  cases h with
  | none hgap => exact .none (List.forall_mem_cons.mpr ⟨hc, hgap⟩)
  | @next gap _ _ _ hgap hrun hends hrest =>
      have hlonger : IsGap (c :: gap) := List.forall_mem_cons.mpr ⟨hc, hgap⟩
      exact .next hlonger hrun hends hrest

/-- A letter or digit in front makes the first run longer, or is a run of its own. -/
theorem HasRuns.cons_word (h : HasRuns t runs) (hc : isWordChar c = true) :
    ∃ runs, HasRuns (c :: t) runs := by
  have hsingle : IsRun [c] := ⟨List.cons_ne_nil _ _, List.forall_mem_singleton.mpr hc⟩
  have hnil : IsGap [] := fun _ hmem => absurd hmem List.not_mem_nil
  cases h with
  | none hgap =>
      have hends : ∀ d, t.head? = some d → isWordChar d = false :=
        fun d hd => hgap d (List.mem_of_head? hd)
      exact ⟨_, HasRuns.next hnil hsingle hends (.none hgap)⟩
  | @next gap run rest runs hgap hrun hends hrest =>
      cases gap with
      | nil =>
          have hlonger : IsRun (c :: run) :=
            ⟨List.cons_ne_nil _ _, List.forall_mem_cons.mpr ⟨hc, hrun.2⟩⟩
          exact ⟨_, HasRuns.next hnil hlonger hends hrest⟩
      | cons d gap =>
          -- What was in front of the first run is between the two now.
          refine ⟨_, HasRuns.next hnil hsingle (fun e he => ?_) (HasRuns.next hgap hrun hends hrest)⟩
          rw [← Option.some.inj he]
          exact hgap d (List.mem_cons_self ..)

theorem exists_hasRuns (t : Text) : ∃ runs, HasRuns t runs := by
  induction t with
  | nil => exact ⟨[], .none fun _ hmem => absurd hmem List.not_mem_nil⟩
  | cons c rest ih =>
      rcases ih with ⟨runs, hrest⟩
      by_cases hc : isWordChar c = true
      · exact hrest.cons_word hc
      · exact ⟨runs, hrest.cons_gap (Bool.not_eq_true _ ▸ hc)⟩

/-- Each text has its runs, and no others. -/
theorem hasRuns_iff : HasRuns t runs ↔ wordRuns t = runs := by
  refine ⟨HasRuns.wordRuns_eq, ?_⟩
  rintro rfl
  rcases exists_hasRuns t with ⟨runs, h⟩
  rwa [h.wordRuns_eq]

theorem HasRuns.isRun (h : HasRuns t runs) : ∀ run ∈ runs, IsRun run := by
  induction h with
  | none _ => exact fun _ hrun => absurd hrun List.not_mem_nil
  | next _ hrun _ _ ih => exact List.forall_mem_cons.mpr ⟨hrun, ih⟩

theorem HasRuns.eq_nil_iff (h : HasRuns t runs) : runs = [] ↔ IsGap t := by
  constructor
  · rintro rfl
    cases h with
    | none hgap => exact hgap
  · intro hgap
    rw [← h.wordRuns_eq]
    exact (HasRuns.none hgap).wordRuns_eq

/-! ## Hyphens -/

/-- Every longest stretch of characters that are no letters or digits, replaced by one hyphen. -/
def hyphenated : Text → Text
  | [] => []
  | c :: rest =>
    if isWordChar c then c :: hyphenated rest
    else '-' :: hyphenated (rest.dropWhile fun d => !isWordChar d)
termination_by t => t.length
decreasing_by
  · exact Nat.lt_succ_self _
  · exact Nat.lt_succ_of_le (List.dropWhile_suffix _).length_le

/-- The text without the hyphens at its ends. -/
def trimHyphens (t : Text) : Text :=
  (Text.dropLeading '-' (Text.dropLeading '-' t).reverse).reverse

/-- There is nothing but hyphens. -/
def IsHyphens (t : Text) : Prop :=
  ∀ c ∈ t, c = CodePoint.char '-'

theorem isHyphens_nil : IsHyphens [] :=
  fun _ h => absurd h List.not_mem_nil

theorem ne_hyphen (h : isWordChar c = true) : c ≠ CodePoint.char '-' := by
  rintro rfl
  exact absurd h (by decide)

theorem hyphenated_run_append (h : ∀ c ∈ run, isWordChar c = true) (rest : Text) :
    hyphenated (run ++ rest) = run ++ hyphenated rest := by
  induction run with
  | nil => rfl
  | cons c run ih =>
      rcases List.forall_mem_cons.mp h with ⟨hc, hrun⟩
      rw [List.cons_append, hyphenated, if_pos hc, ih hrun, List.cons_append]

/-- A stretch that ends becomes one hyphen. -/
theorem hyphenated_gap_append (h : IsGap a) (hne : a ≠ [])
    (hends : ∀ c, b.head? = some c → isWordChar c = true) :
    hyphenated (a ++ b) = Text.ofString "-" ++ hyphenated b := by
  cases a with
  | nil => exact absurd rfl hne
  | cons c gap =>
      rcases List.forall_mem_cons.mp h with ⟨hc, hgap⟩
      have hdropped : (gap ++ b).dropWhile (fun d => !isWordChar d) = b := by
        rw [List.dropWhile_append_of_pos fun d hd => by rw [hgap d hd]; rfl]
        cases b with
        | nil => rfl
        | cons d rest => exact List.dropWhile_cons_of_neg (by rw [hends d rfl]; exact Bool.false_ne_true)
      rw [List.cons_append, hyphenated, hc, if_neg Bool.false_ne_true, hdropped]
      rfl

theorem hyphenated_gap (h : IsGap t) : IsHyphens (hyphenated t) := by
  cases t with
  | nil =>
      rw [hyphenated]
      exact isHyphens_nil
  | cons c rest =>
      have hone := hyphenated_gap_append (b := []) h (List.cons_ne_nil _ _) nofun
      rw [List.append_nil, hyphenated] at hone
      rw [hone]
      exact fun d hd => List.mem_singleton.mp hd

/-- A run starts with a letter or digit. -/
theorem head?_run_append (h : IsRun run) (rest : Text) :
    ∀ c, (run ++ rest).head? = some c → isWordChar c = true := by
  rcases List.exists_cons_of_ne_nil h.1 with ⟨c, others, rfl⟩
  intro d hd
  rw [← Option.some.inj hd]
  exact h.2 c (List.mem_cons_self ..)

/-- Behind a run there is one hyphen before each of the others, and at most hyphens at the end. -/
theorem HasRuns.hyphenated_behind (h : HasRuns t runs)
    (hends : ∀ c, t.head? = some c → isWordChar c = false) :
    ∃ trail, IsHyphens trail ∧
      hyphenated t = (runs.flatMap fun run => Text.ofString "-" ++ run) ++ trail := by
  induction h with
  | @none t hgap => exact ⟨hyphenated t, hyphenated_gap hgap, rfl⟩
  | @next gap run rest runs hgap hrun hrestEnds hrest ih =>
      rcases ih hrestEnds with ⟨trail, htrail, hhyphenated⟩
      have hne : gap ≠ [] := by
        rintro rfl
        rcases List.exists_cons_of_ne_nil hrun.1 with ⟨c, others, rfl⟩
        exact Bool.false_ne_true ((hends c rfl).symm.trans (hrun.2 c (List.mem_cons_self ..)))
      -- The stretch before the run becomes one hyphen, since it is there and ends where the run starts.
      refine ⟨trail, htrail, ?_⟩
      rw [List.append_assoc, hyphenated_gap_append hgap hne (head?_run_append hrun rest),
        hyphenated_run_append hrun.2, hhyphenated]
      simp only [List.flatMap_cons, List.append_assoc]

theorem join_eq_append (separator first : Text) (rest : List Text) :
    Text.join separator (first :: rest) = first ++ rest.flatMap (separator ++ ·) := by
  induction rest generalizing first with
  | nil => exact (List.append_nil first).symm
  | cons second others ih =>
      rw [join_cons_cons, ih, List.flatMap_cons, List.append_assoc, List.append_assoc]

theorem join_ne_nil {first : Text} (h : first ≠ []) (separator : Text) (rest : List Text) :
    Text.join separator (first :: rest) ≠ [] := by
  rw [join_eq_append]
  exact List.append_ne_nil_of_left_ne_nil h _

/-- With hyphens there are the runs with one hyphen between each two, and at most hyphens at the ends. -/
theorem HasRuns.hyphenated (h : HasRuns t runs) :
    ∃ edge trail, IsHyphens edge ∧ IsHyphens trail ∧
      hyphenated t = edge ++ Text.join "-" runs ++ trail := by
  cases h with
  | none hgap => exact ⟨[], _, isHyphens_nil, hyphenated_gap hgap, rfl⟩
  | @next gap run rest runs hgap hrun hends hrest =>
      rcases hrest.hyphenated_behind hends with ⟨trail, htrail, hbehind⟩
      have hrun' : CallSnippets.hyphenated (run ++ rest) = Text.join "-" (run :: runs) ++ trail := by
        rw [hyphenated_run_append hrun.2, hbehind, join_eq_append, List.append_assoc]
      by_cases hgapNil : gap = []
      · rw [hgapNil, List.nil_append]
        exact ⟨[], trail, isHyphens_nil, htrail, hrun'⟩
      · refine ⟨"-", trail, fun d hd => List.mem_singleton.mp hd, htrail, ?_⟩
        rw [List.append_assoc, hyphenated_gap_append hgap hgapNil (head?_run_append hrun rest), hrun',
          List.append_assoc]

/-- Runs with hyphens between them start and end with letters or digits. -/
theorem join_ends (h : ∀ run ∈ runs, IsRun run) :
    (∀ c, (Text.join "-" runs).head? = some c → c ≠ CodePoint.char '-') ∧
      ∀ c, (Text.join "-" runs).getLast? = some c → c ≠ CodePoint.char '-' := by
  induction runs with
  | nil => exact ⟨nofun, nofun⟩
  | cons run rest ih =>
      rcases List.forall_mem_cons.mp h with ⟨hrun, hrest⟩
      constructor
      · intro c hc
        rw [join_eq_append] at hc
        exact ne_hyphen (head?_run_append hrun _ c hc)
      · intro c hc
        cases rest with
        | nil => exact ne_hyphen (hrun.2 c (List.mem_of_getLast? hc))
        | cons second others =>
            have hne : Text.join "-" (second :: others) ≠ [] :=
              join_ne_nil (hrest second (List.mem_cons_self ..)).1 _ _
            rw [join_cons_cons, List.getLast?_append_of_ne_nil _ hne] at hc
            exact (ih hrest).2 c hc

theorem dropLeading_append (ha : IsHyphens a) (hb : ∀ c, b.head? = some c → c ≠ CodePoint.char '-') :
    Text.dropLeading '-' (a ++ b) = b := by
  rw [Text.dropLeading, List.dropWhile_append_of_pos fun c hc => decide_eq_true (ha c hc)]
  cases b with
  | nil => rfl
  | cons c rest => exact List.dropWhile_cons_of_neg (by simpa using hb c rfl)

/-- Only the hyphens at the ends are cut off. -/
theorem trimHyphens_append (ha : IsHyphens a) (hb : IsHyphens b)
    (hhead : ∀ c, t.head? = some c → c ≠ CodePoint.char '-')
    (hlast : ∀ c, t.getLast? = some c → c ≠ CodePoint.char '-') : trimHyphens (a ++ t ++ b) = t := by
  cases t with
  | nil =>
      -- All hyphens are in front then, as there is nothing for them to be behind.
      have hall : IsHyphens (a ++ b) := fun c hc => (List.mem_append.mp hc).elim (ha c) (hb c)
      have hnone : Text.dropLeading '-' (a ++ b ++ []) = [] := dropLeading_append hall nofun
      rw [List.append_nil] at hnone
      rw [List.append_nil, trimHyphens, hnone]
      rfl
  | cons c rest =>
      have hfront : Text.dropLeading '-' (a ++ (c :: rest ++ b)) = c :: rest ++ b :=
        dropLeading_append ha fun d hd => hhead d hd
      have hback : Text.dropLeading '-' (b.reverse ++ (c :: rest).reverse) = (c :: rest).reverse := by
        refine dropLeading_append (fun d hd => hb d (List.mem_reverse.mp hd)) fun d hd => ?_
        rw [List.head?_reverse] at hd
        exact hlast d hd
      rw [List.append_assoc, trimHyphens, hfront, List.reverse_append, hback, List.reverse_reverse]

/-! ## Small letters -/

/-- The character is a small ASCII letter or a digit. -/
def isSmallWordChar (c : CodePoint) : Bool :=
  ('a' ≤ c && c ≤ 'z') || ('0' ≤ c && c ≤ '9')

/-- There are characters, and all of them are small letters and digits. -/
def IsSmallWord (t : Text) : Prop :=
  t ≠ [] ∧ ∀ c ∈ t, isSmallWordChar c = true

/-- Words of small letters and digits with one hyphen between each two. -/
def IsSlug (t : Text) : Prop :=
  ∃ words, words ≠ [] ∧ (∀ word ∈ words, IsSmallWord word) ∧ t = Text.join "-" words

theorem isWordChar_iff : isWordChar c = true ↔ (65 ≤ c.toNat ∧ c.toNat ≤ 90) ∨
    (97 ≤ c.toNat ∧ c.toNat ≤ 122) ∨ (48 ≤ c.toNat ∧ c.toNat ≤ 57) := by
  simp only [isWordChar, Bool.or_eq_true, Bool.and_eq_true, decide_eq_true_eq, or_assoc]
  exact Iff.rfl

theorem isSmallWordChar_iff : isSmallWordChar c = true ↔
    (97 ≤ c.toNat ∧ c.toNat ≤ 122) ∨ (48 ≤ c.toNat ∧ c.toNat ≤ 57) := by
  simp only [isSmallWordChar, Bool.or_eq_true, Bool.and_eq_true, decide_eq_true_eq]
  exact Iff.rfl

theorem IsSmallWord.isRun (h : IsSmallWord t) : IsRun t :=
  ⟨h.1, fun c hc => isWordChar_iff.mpr (.inr (isSmallWordChar_iff.mp (h.2 c hc)))⟩

/-- ASCII characters are brought into lower case one by one. -/
theorem lowerChar_ascii : ∀ n < 128, CodePoint.ofNat n ≠ Text.capitalSigma ∧
    Text.lowerChar (CodePoint.ofNat n) = [Text.asciiLowerChar (CodePoint.ofNat n)] := by
  decide +kernel

theorem lower_ascii (h : ∀ c ∈ t, c.toNat < 128) : Text.lower t = Text.asciiLower t := by
  rw [Text.lower]
  generalize ([] : Text) = before
  induction t generalizing before with
  | nil => rfl
  | cons c rest ih =>
      rcases List.forall_mem_cons.mp h with ⟨hc, hrest⟩
      rcases lowerChar_ascii c.toNat hc with ⟨hsigma, hlower⟩
      rw [c.ofNat_toNat] at hsigma hlower
      rw [Text.lowerAfter, if_neg hsigma, hlower, ih hrest]
      rfl

theorem toNat_lt_of_isWordChar (h : isWordChar c = true) : c.toNat < 128 := by
  have hc := isWordChar_iff.mp h
  omega

/-- A letter or digit in lower case is a small one. -/
theorem isSmallWordChar_asciiLowerChar (h : isWordChar c = true) :
    isSmallWordChar (Text.asciiLowerChar c) = true := by
  have hc := isWordChar_iff.mp h
  rw [isSmallWordChar_iff, Text.asciiLowerChar]
  split
  · rename_i hcapital
    have hrange : 65 ≤ c.toNat ∧ c.toNat ≤ 90 := hcapital
    rw [Text.toNat_ofNat (Or.inl (by omega))]
    omega
  · rename_i hcapital
    have hrange : ¬(65 ≤ c.toNat ∧ c.toNat ≤ 90) := hcapital
    omega

theorem asciiLowerChar_small (h : isSmallWordChar c = true) : Text.asciiLowerChar c = c := by
  have hc := isSmallWordChar_iff.mp h
  refine if_neg fun hcapital => ?_
  have hrange : 65 ≤ c.toNat ∧ c.toNat ≤ 90 := hcapital
  omega

theorem IsRun.lower (h : IsRun run) : IsSmallWord (Text.asciiLower run) := by
  refine ⟨fun hnil => h.1 (List.map_eq_nil_iff.mp hnil), fun c hc => ?_⟩
  rcases List.mem_map.mp hc with ⟨d, hd, rfl⟩
  exact isSmallWordChar_asciiLowerChar (h.2 d hd)

theorem IsSmallWord.lower_eq (h : IsSmallWord t) : Text.asciiLower t = t :=
  (List.map_congr_left fun c hc => asciiLowerChar_small (h.2 c hc)).trans (List.map_id t)

theorem asciiLower_join (runs : List Text) :
    Text.asciiLower (Text.join "-" runs) = Text.join "-" (runs.map Text.asciiLower) := by
  cases runs with
  | nil => rfl
  | cons run rest =>
      rw [List.map_cons, join_eq_append, join_eq_append, List.flatMap_map, Text.asciiLower, List.map_append,
        List.map_flatMap]
      simp only [List.map_append]
      rfl

/-- The runs of runs with hyphens between them. -/
theorem wordRuns_join (h : ∀ run ∈ runs, IsRun run) : wordRuns (Text.join "-" runs) = runs := by
  induction runs with
  | nil => rfl
  | cons run rest ih =>
      rcases List.forall_mem_cons.mp h with ⟨hrun, hrest⟩
      cases rest with
      | nil => exact wordRuns_of_run hrun
      | cons second others =>
          have hjoin : Text.join "-" (run :: second :: others) =
              run ++ CodePoint.char '-' :: Text.join "-" (second :: others) :=
            (join_cons_cons _ _ _ _).trans (List.append_assoc ..)
          rw [hjoin, wordRuns_append_cons (by decide), wordRuns_of_run hrun, ih hrest]
          rfl

/-! ## Names -/

/-- The runs by way of hyphens. -/
theorem slug_eq_lower (t : Text) : slug t = Text.lower (trimHyphens (hyphenated t)) := by
  have hruns : HasRuns t (wordRuns t) := hasRuns_iff.mpr rfl
  have hends := join_ends hruns.isRun
  rcases hruns.hyphenated with ⟨edge, trail, hedge, htrail, hhyphenated⟩
  rw [hhyphenated, trimHyphens_append hedge htrail hends.1 hends.2, slug, ← asciiLower_join, lower_ascii]
  intro c hc
  by_cases hhyphen : c = CodePoint.char '-'
  · rw [hhyphen]
    decide
  · rcases (mem_join hhyphen).mp hc with ⟨run, hrun, hmem⟩
    exact toNat_lt_of_isWordChar ((hruns.isRun run hrun).2 c hmem)

/-- Making a name from one gives the same. -/
theorem slug_eq_self (h : IsSlug t) : slug t = t := by
  rcases h with ⟨words, _, hwords, rfl⟩
  rw [slug, wordRuns_join fun word hword => (hwords word hword).isRun,
    List.map_congr_left fun word hword => (hwords word hword).lower_eq, List.map_id']

theorem HasRuns.slug_eq (h : HasRuns t runs) : slug t = Text.join "-" (runs.map Text.asciiLower) := by
  rw [slug, h.wordRuns_eq]

/-- There is nothing but words and single hyphens in a name that is made from runs. -/
theorem HasRuns.isSlug (h : HasRuns t runs) (hne : runs ≠ []) : IsSlug (slug t) := by
  refine ⟨runs.map Text.asciiLower, fun hnil => hne (List.map_eq_nil_iff.mp hnil), ?_, h.slug_eq⟩
  intro word hword
  rcases List.mem_map.mp hword with ⟨run, hrun, rfl⟩
  exact (h.isRun run hrun).lower

theorem IsSlug.ne_nil (h : IsSlug t) : t ≠ [] := by
  rcases h with ⟨words, hne, hwords, rfl⟩
  rcases List.exists_cons_of_ne_nil hne with ⟨word, others, rfl⟩
  exact join_ne_nil (hwords word (List.mem_cons_self ..)).1 _ _

theorem slug_eq_nil_iff : slug t = [] ↔ IsGap t := by
  have hruns : HasRuns t (wordRuns t) := hasRuns_iff.mpr rfl
  rw [← hruns.eq_nil_iff]
  constructor
  · exact fun h => Decidable.byContradiction fun hne => (hruns.isSlug hne).ne_nil h
  · intro h
    rw [slug, h]
    rfl

/-- Everything that is known of the name for a method and a path. -/
structure NameRules (method path : Text) : Prop where
  /-- A path without letters and digits adds nothing to the method. -/
  bare : IsGap path → requestName method path = Text.lower method
  /-- Any other path has runs, and no others than these. They follow behind the method in lower case, with
      one hyphen before each. -/
  runs : ¬IsGap path → ∃ runs, runs ≠ [] ∧ (∀ others, HasRuns path others ↔ others = runs) ∧
    slug path = Text.join "-" (runs.map Text.lower) ∧
    requestName method path = Text.lower method ++ "-" ++ slug path
  /-- They come of replacing whatever is between them, cutting off what is at the ends, and bringing the
      rest into lower case, in this order. -/
  replaced : slug path = Text.lower (trimHyphens (hyphenated path))
  /-- There is nothing else in what follows behind the method than words and single hyphens. -/
  form : ¬IsGap path → IsSlug (slug path)
  /-- Making a name from it once more gives the same. -/
  again : slug (slug path) = slug path

/-- What is known of names. -/
theorem requestName_rules (method path : Text) : NameRules method path := by
  have hruns : HasRuns path (wordRuns path) := hasRuns_iff.mpr rfl
  have hform (h : ¬IsGap path) : IsSlug (slug path) :=
    hruns.isSlug fun hnil => h (hruns.eq_nil_iff.mp hnil)
  constructor
  case bare =>
    intro h
    rw [requestName, slug_eq_nil_iff.mpr h]
    rfl
  case runs =>
    intro h
    refine ⟨wordRuns path, fun hnil => h (hruns.eq_nil_iff.mp hnil), fun others => ?_, ?_, ?_⟩
    · rw [hasRuns_iff, eq_comm]
    · rw [slug, List.map_congr_left fun run hrun => lower_ascii fun c hc =>
        toNat_lt_of_isWordChar ((hruns.isRun run hrun).2 c hc)]
    · rw [requestName, if_neg fun hempty => h (slug_eq_nil_iff.mp (List.isEmpty_iff.mp hempty))]
  case replaced => exact slug_eq_lower path
  case form => exact hform
  case again =>
    by_cases h : IsGap path
    · rw [slug_eq_nil_iff.mpr h]
      rfl
    · exact slug_eq_self (hform h)

/-- The method keeps what is not cleaned from it, a stroke for instance. -/
example : requestName "A/b" "//Users('x')/7-" = "a/b-users-x-7" := by
  decide +kernel

end CallSnippets
