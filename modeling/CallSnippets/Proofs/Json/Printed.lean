import CallSnippets.Json.Printer
import CallSnippets.Proofs.Json.Complete
import CallSnippets.Proofs.Literal.Document
import CallSnippets.Proofs.Number.Decimal
import CallSnippets.Proofs.Settings.Source

/-!
# What is printed as JSON

Data of which JSON knows all parts is printed over several lines, and what is printed is read back as the
same data. The layout of the lines does not depend on how the names of members are written, so one layout
serves for the JSON text and for what becomes of the text when its keys are written bare.

To read the text back, it is enough to give the tree that it is the text of. The tree follows the data: a
character is a letter of a string, a whole number is a number without a fraction, and the items of a list
are the items of an array, with the starts of lines for the white space between them. No two letters of a
printed text are the halves of one character, because only control characters are printed by their numbers,
so each letter is read for itself.

## Main definitions

* `IsData`: Data that can be printed and read back.
* `layout`: Data laid out over several lines, with the names of members written in a given way.
* `bareName`: A name as it stands between its marks, without the blanks at its end.
* `Lays`: A tree is what data are laid out as, and stands for them.
* `content`: The characters of the names and texts in data.

## Theorems

* `exists_letters`, `exists_number`: Texts and whole numbers are written as parts that stand for them.
* `IsData.print`: What is printed is the layout with quoted names.
* `IsData.exists_tree`, `IsData.exists_document`: The layout is the text of a document, which is read back.
* `IsData.filter_layout`: Characters outside of ASCII are written as they are.
-/

namespace CallSnippets

namespace Json

variable {c : CodePoint} {t : Text} {v : Value} {depth : Nat}

/-! ## Texts -/

/-- Control characters are written with four digits that stand for their number. -/
theorem hexText_control : ∀ n < 0x20, (Text.hexText 4 n).length = 4 ∧
    (∀ c ∈ Text.hexText 4 n, (Text.hexValue c).isSome = true) ∧ codeNumber (Text.hexText 4 n) = n := by
  decide

/-- An escape by code point stands for itself if it is no first half of a pair. -/
theorem lettersText_code {digits : Text} {four : digits.length = 4}
    {hex : ∀ c ∈ digits, (Text.hexValue c).isSome = true}
    (h : Text.isHighHalf (codeNumber digits) = false) (rest : List Letter) :
    lettersText (.code digits four hex :: rest) = .ofNat (codeNumber digits) :: lettersText rest := by
  cases rest with
  | nil => rfl
  | cons second more =>
      cases second with
      | plain c hplain => rfl
      | escape c hescape => rfl
      | code digits' four' hex' =>
          rw [lettersText, h, Bool.false_and, if_neg Bool.false_ne_true]

/-- A character inside of a string is written as one letter, which stands for it. -/
theorem exists_letter (c : CodePoint) : ∃ letter : Letter, letter.text = quoteChar c ∧
    ∀ rest, lettersText (letter :: rest) = c :: lettersText rest := by
  rw [quoteChar]
  split_ifs with hmark hback hline hreturn htab hbackspace hfeed hcontrol
  · exact ⟨.escape '"' rfl, rfl, fun rest => by rw [hmark]; rfl⟩
  · exact ⟨.escape '\\' rfl, rfl, fun rest => by rw [hback]; rfl⟩
  · exact ⟨.escape 'n' rfl, rfl, fun rest => by rw [hline]; rfl⟩
  · exact ⟨.escape 'r' rfl, rfl, fun rest => by rw [hreturn]; rfl⟩
  · exact ⟨.escape 't' rfl, rfl, fun rest => by rw [htab]; rfl⟩
  · refine ⟨.escape 'b' rfl, rfl, fun rest => ?_⟩
    rw [← c.ofNat_toNat, hbackspace]
    rfl
  · refine ⟨.escape 'f' rfl, rfl, fun rest => ?_⟩
    rw [← c.ofNat_toNat, hfeed]
    rfl
  · rcases hexText_control c.toNat hcontrol with ⟨four, hex, hnumber⟩
    refine ⟨.code (Text.hexText 4 c.toNat) four hex, rfl, fun rest => ?_⟩
    -- A control character is no half of a pair, so what follows cannot be its other half.
    have hhigh : Text.isHighHalf (codeNumber (Text.hexText 4 c.toNat)) = false := by
      rw [hnumber, Text.isHighHalf, Bool.and_eq_false_iff, decide_eq_false_iff_not]
      exact .inl (by omega)
    rw [lettersText_code hhigh, hnumber, c.ofNat_toNat]
  · have hplain : isPlain c = true := by
      rw [isPlain, Bool.and_eq_true, Bool.and_eq_true]
      exact ⟨⟨decide_eq_true hmark, decide_eq_true hback⟩, decide_eq_true (Nat.le_of_not_lt hcontrol)⟩
    exact ⟨.plain c hplain, rfl, fun rest => rfl⟩

/-- A text is written as letters that stand for it. -/
theorem exists_letters (t : Text) :
    ∃ letters : List Letter, chars letters = t.flatMap quoteChar ∧ lettersText letters = t := by
  induction t with
  | nil => exact ⟨[], rfl, rfl⟩
  | cons c rest ih =>
      rcases exists_letter c with ⟨letter, htext, hmeaning⟩
      rcases ih with ⟨letters, hchars, hletters⟩
      refine ⟨letter :: letters, ?_, ?_⟩
      · rw [chars_cons, htext, hchars, List.flatMap_cons]
      · rw [hmeaning, hletters]

/-! ## Numbers -/

/-- A whole number is written as a number that stands for it, if it is not too long. -/
theorem exists_number {n : Int} (hshort : (natText n.natAbs).length ≤ digitLimit) :
    ∃ number : Number, number.text = intText n ∧
      number.meaning (some digitLimit) = .ok (.int n) := by
  let whole : Whole := ⟨⟨natText n.natAbs, natText_isDigit _, natText_ne_nil _⟩, natText_zero _⟩
  have hsign : signText n = [] ∨ signText n = "-" := by
    rw [signText]
    split
    · exact .inr rfl
    · exact .inl rfl
  refine ⟨⟨signText n, hsign, whole, none, none⟩, ?_, ?_⟩
  · simp only [Number.text, Option.elim_none, List.append_nil]
    exact (intText_eq n).symm
  · have hnegative : decide (signText n = Text.ofString "-") = decide (n < 0) := by
      rw [signText]
      by_cases hn : n < 0
      · rw [if_pos hn, decide_eq_true hn]
        rfl
      · rw [if_neg hn, decide_eq_false hn]
        rfl
    have hdigits : digitsNumber (natText n.natAbs) = n.natAbs := ofDigits_natText n.natAbs
    simp only [Number.meaning, Number.isWhole, Option.isNone_none, Bool.and_self, if_true,
      Option.any_some, whole, decide_eq_false (Nat.not_lt.mpr hshort), Bool.false_eq_true, if_false,
      hnegative, hdigits, decide_eq_true_eq]
    congr 2
    split <;> omega

/-! ## Words and white space -/

theorem exists_bool (b : Bool) : ∃ w : Word, w.text = boolText b ∧ w.meaning = .bool b := by
  cases b with
  | false => exact ⟨⟨"false", by decide⟩, rfl, rfl⟩
  | true => exact ⟨⟨"true", by decide⟩, rfl, rfl⟩

theorem exists_null : ∃ w : Word, w.text = Text.ofString "null" ∧ w.meaning = .null :=
  ⟨⟨"null", by decide⟩, rfl, rfl⟩

/-- The start of a line is white space. -/
theorem exists_newLine (depth : Nat) : ∃ gap : Gap, gap.text = newLine depth := by
  refine ⟨⟨newLine depth, fun c hc => ?_⟩, rfl⟩
  rw [newLine, Text.repeated] at hc
  rcases List.mem_cons.mp hc with rfl | hblank
  · decide
  · rw [List.eq_of_mem_replicate hblank]
    decide

/-! ## Data -/

/-- Data that can be printed and read back: the keys of a mapping are texts, and none is given twice; a whole
    number is not too long; and there are no numbers with a fraction. -/
inductive IsData : Value → Prop where
  /-- No value. -/
  | null : IsData .null
  /-- A truth value. -/
  | bool (b : Bool) : IsData (.bool b)
  /-- A whole number. -/
  | int {n : Int} (hshort : (natText n.natAbs).length ≤ digitLimit) : IsData (.int n)
  /-- A text. -/
  | text (t : Text) : IsData (.text t)
  /-- A list of data. -/
  | list {items : List Value} (hitems : ∀ v ∈ items, IsData v) : IsData (.list items)
  /-- A mapping from texts to data. -/
  | map {entries : List (Value × Value)} (hkeys : ∀ e ∈ entries, ∃ name, e.1 = .text name)
      (hdistinct : (entries.map Prod.fst).Nodup) (hvalues : ∀ e ∈ entries, IsData e.2) :
      IsData (.map entries)

section

variable (key : Text → Text)

mutual

/-- Data laid out over several lines from a depth of nesting on, each nesting set in by four blanks, with
    the names of members written in a given way. -/
def layout (depth : Nat) : Value → Text
  | .text t => quote t
  | .bool b => boolText b
  | .int n => intText n
  | .list items => bracketed '[' ']' depth (layoutItems (depth + 1) items)
  | .map entries => bracketed '{' '}' depth (layoutEntries (depth + 1) entries)
  | .null => "null"
  | _ => []

/-- The items of a list, each laid out. -/
def layoutItems (depth : Nat) : List Value → List Text
  | [] => []
  | v :: rest => layout depth v :: layoutItems depth rest

/-- The entries of a mapping, each laid out as a name and a value. -/
def layoutEntries (depth : Nat) : List (Value × Value) → List Text
  | [] => []
  | (.text name, v) :: rest => (key name ++ ": " ++ layout depth v) :: layoutEntries depth rest
  | _ :: rest => layoutEntries depth rest

end

end

/-- A name as it stands between its marks, without the blanks at its end. -/
def bareName (name : Text) : Text :=
  Text.trimEnd (name.flatMap quoteChar)

/-! ## Printing -/

theorem printAll_eq {items : List Value} {around : List Nat}
    (h : ∀ v ∈ items, printWithin around depth v = .ok (layout quote depth v)) :
    printAll around depth items = .ok (layoutItems quote depth items) := by
  induction items with
  | nil => rfl
  | cons v rest ih =>
      rcases List.forall_mem_cons.mp h with ⟨hv, hrest⟩
      rw [printAll, hv, ih hrest]
      rfl

theorem printEntries_eq {entries : List (Value × Value)} {around : List Nat}
    (hkeys : ∀ e ∈ entries, ∃ name, e.1 = .text name)
    (h : ∀ e ∈ entries, printWithin around depth e.2 = .ok (layout quote depth e.2)) :
    printEntries around depth entries = .ok (layoutEntries quote depth entries) := by
  induction entries with
  | nil => rfl
  | cons e rest ih =>
      rcases List.forall_mem_cons.mp hkeys with ⟨⟨name, hname⟩, hothers⟩
      rcases List.forall_mem_cons.mp h with ⟨hvalue, hrest⟩
      rcases e with ⟨k, v⟩
      cases hname
      rw [printEntries, keyText, ok_bind, hvalue, ih hothers hrest]
      rfl

/-- Data is printed as it is laid out with quoted names. -/
theorem IsData.print (h : IsData v) (around : List Nat) (depth : Nat) :
    printWithin around depth v = .ok (layout quote depth v) := by
  induction h generalizing depth with
  | null => rfl
  | bool b => rfl
  | int hshort =>
      rw [printWithin, intTextOrFault, intText?, if_pos hshort]
      rfl
  | text t => rfl
  | list _ ih =>
      rw [printWithin, printAll_eq fun v hv => ih v hv (depth + 1)]
      rfl
  | map hkeys _ _ ih =>
      rw [printWithin, printEntries_eq hkeys fun e he => ih e he (depth + 1)]
      rfl

/-! ## Documents -/

/-- Keys are written as names are, with the colon behind them. -/
def WritesNames (write : Key → Text) (name : Text → Text) : Prop :=
  ∀ letters t, chars letters = t.flatMap quoteChar → write ⟨letters, .none⟩ = name t ++ [keyMark]

theorem writesNames_quote : WritesNames Key.text quote := by
  intro letters t hchars
  rw [Key.text, quoted, enclosed, hchars, quote]
  simp only [Gap.none, List.append_nil]
  rfl

theorem writesNames_bare : WritesNames Key.bare bareName := by
  intro letters t hchars
  rw [Key.bare, hchars, bareName]

/-- A tree is what data are laid out as from a depth of nesting on, however names are written, and it stands
    for them. -/
structure Lays (tree : Tree) (depth : Nat) (v : Value) : Prop where
  text : ∀ write name, WritesNames write name → tree.textWith write = layout name depth v
  meaning : tree.meaning (some digitLimit) Key.meaning = .ok v

/-- Items are laid out on lines of their own, up to the bracket. -/
theorem exists_items {items : List Value} (hne : items ≠ [])
    (h : ∀ v ∈ items, ∃ tree, Lays tree (depth + 1) v) : ∃ is : Items,
      (∀ write name, WritesNames write name → is.textWith write =
        Text.join ("," ++ newLine (depth + 1)) (layoutItems name (depth + 1) items) ++ newLine depth) ∧
      is.meaning (some digitLimit) Key.meaning = .ok items := by
  rcases exists_newLine depth with ⟨outer, houter⟩
  rcases exists_newLine (depth + 1) with ⟨inner, hinner⟩
  induction items with
  | nil => exact absurd rfl hne
  | cons v rest ih =>
      rcases List.forall_mem_cons.mp h with ⟨⟨tree, htree⟩, hrest⟩
      -- The last item has the line of the bracket behind it, and each other one a comma and a line.
      cases rest with
      | nil =>
          refine ⟨.last tree outer, fun write name hnames => ?_, ?_⟩
          · rw [Items.textWith, htree.text write name hnames, houter]
            rfl
          · rw [Items.meaning, htree.meaning]
            rfl
      | cons w others =>
          rcases ih (List.cons_ne_nil w others) hrest with ⟨is, htext, hmeaning⟩
          refine ⟨.next tree .none inner is, fun write name hnames => ?_, ?_⟩
          · rw [Items.textWith, htree.text write name hnames, htext write name hnames, hinner]
            simp only [layoutItems, Text.join, Gap.none, List.append_assoc, List.append_nil,
              List.cons_append]
            rfl
          · rw [Items.meaning, htree.meaning, hmeaning]
            rfl

/-- Members are laid out on lines of their own, up to the bracket. -/
theorem exists_members {entries : List (Value × Value)} (hne : entries ≠ [])
    (hkeys : ∀ e ∈ entries, ∃ name, e.1 = .text name)
    (h : ∀ e ∈ entries, ∃ tree, Lays tree (depth + 1) e.2) : ∃ members : Members,
      (∀ write name, WritesNames write name → members.textWith write =
        Text.join ("," ++ newLine (depth + 1)) (layoutEntries name (depth + 1) entries) ++
          newLine depth) ∧
      members.meaning (some digitLimit) Key.meaning = .ok entries := by
  rcases exists_newLine depth with ⟨outer, houter⟩
  rcases exists_newLine (depth + 1) with ⟨inner, hinner⟩
  induction entries with
  | nil => exact absurd rfl hne
  | cons e rest ih =>
      rcases List.forall_mem_cons.mp h with ⟨⟨tree, htree⟩, hrest⟩
      rcases List.forall_mem_cons.mp hkeys with ⟨⟨title, htitle⟩, hothers⟩
      rcases exists_letters title with ⟨letters, hchars, hletters⟩
      rcases e with ⟨k, v⟩
      cases htitle
      cases rest with
      | nil =>
          refine ⟨.last (.mk ⟨letters, .none⟩ .blank tree outer), fun write name hnames => ?_, ?_⟩
          · rw [Members.textWith, Member.textWith, hnames letters title hchars,
              htree.text write name hnames, houter]
            simp only [layoutEntries, Text.join, Gap.blank, List.append_assoc]
            rfl
          · rw [Members.meaning, Member.meaning, htree.meaning, map_ok, map_ok, Key.meaning, hletters]
      | cons e' others =>
          rcases ih (List.cons_ne_nil e' others) hothers hrest with ⟨members, htext, hmeaning⟩
          refine ⟨.next (.mk ⟨letters, .none⟩ .blank tree .none) inner members,
            fun write name hnames => ?_, ?_⟩
          · rw [Members.textWith, Member.textWith, hnames letters title hchars,
              htree.text write name hnames, htext write name hnames, hinner]
            -- That there is another part to be joined shows only once the key behind is known to be a text.
            rcases List.forall_mem_cons.mp hothers with ⟨⟨title', htitle'⟩, _⟩
            rcases e' with ⟨k', v'⟩
            cases htitle'
            simp only [layoutEntries, Text.join, Gap.blank, Gap.none, List.append_assoc, List.append_nil,
              List.nil_append, List.cons_append]
            rfl
          · rw [Members.meaning, Member.meaning, htree.meaning, hmeaning, map_ok, ok_bind, map_ok,
              Key.meaning, hletters]

/-- A new entry goes last. -/
theorem insertEntry_new {name : Text} {known : List (Value × Value)}
    (h : ∀ e ∈ known, e.1 ≠ .text name) (v : Value) :
    Value.insertEntry (.text name) v known = known ++ [(.text name, v)] := by
  induction known with
  | nil => rfl
  | cons e rest ih =>
      rcases List.forall_mem_cons.mp h with ⟨he, hrest⟩
      rcases e with ⟨k, old⟩
      rw [Value.insertEntry, if_neg fun hsame => he (sameKey_text.mp hsame), ih hrest]
      rfl

theorem foldl_insertEntry {known entries : List (Value × Value)}
    (hkeys : ∀ e ∈ entries, ∃ name, e.1 = .text name)
    (hdistinct : ((known ++ entries).map Prod.fst).Nodup) :
    entries.foldl (fun known e => Value.insertEntry e.1 e.2 known) known = known ++ entries := by
  induction entries generalizing known with
  | nil => rw [List.foldl_nil, List.append_nil]
  | cons e rest ih =>
      rcases List.forall_mem_cons.mp hkeys with ⟨⟨name, hname⟩, hothers⟩
      rcases e with ⟨k, v⟩
      cases hname
      -- No name is known when its turn comes, so each entry goes last.
      have hnew : ∀ e ∈ known, e.1 ≠ .text name := by
        intro e he hsame
        rw [List.map_append, List.nodup_append] at hdistinct
        exact hdistinct.2.2 _ (List.mem_map_of_mem he) _ (List.mem_cons_self ..) hsame
      have hmoved : known ++ (Value.text name, v) :: rest = known ++ [(.text name, v)] ++ rest := by
        rw [List.append_assoc, List.singleton_append]
      rw [List.foldl_cons, insertEntry_new hnew, hmoved, ih hothers (hmoved ▸ hdistinct)]

/-- Entries without repetition are kept as they are. -/
theorem ofEntries_eq_self {entries : List (Value × Value)}
    (hkeys : ∀ e ∈ entries, ∃ name, e.1 = .text name) (hdistinct : (entries.map Prod.fst).Nodup) :
    Value.ofEntries entries = entries := by
  rw [Value.ofEntries, foldl_insertEntry hkeys (by rwa [List.nil_append]), List.nil_append]

/-- Brackets with nothing between them, or with parts on lines of their own. -/
theorem bracketed_eq (opening closing : CodePoint) (depth : Nat) {parts : List Text} (h : parts ≠ []) :
    bracketed opening closing depth parts = enclosed opening closing (newLine (depth + 1) ++
      (Text.join ("," ++ newLine (depth + 1)) parts ++ newLine depth)) := by
  rw [bracketed, if_neg (by rwa [List.isEmpty_iff]), enclosed]
  simp only [List.cons_append, List.append_assoc]

theorem layoutItems_ne_nil {items : List Value} (hne : items ≠ []) (name : Text → Text) (depth : Nat) :
    layoutItems name depth items ≠ [] := by
  cases items with
  | nil => exact absurd rfl hne
  | cons v rest => exact List.cons_ne_nil _ _

theorem layoutEntries_ne_nil {entries : List (Value × Value)} (hne : entries ≠ [])
    (hkeys : ∀ e ∈ entries, ∃ name, e.1 = .text name) (name : Text → Text) (depth : Nat) :
    layoutEntries name depth entries ≠ [] := by
  cases entries with
  | nil => exact absurd rfl hne
  | cons e rest =>
      rcases (List.forall_mem_cons.mp hkeys).1 with ⟨title, htitle⟩
      rcases e with ⟨k, v⟩
      cases htitle
      exact List.cons_ne_nil _ _

/-- Data are laid out as the text of a tree, which stands for them. -/
theorem IsData.exists_tree (h : IsData v) (depth : Nat) : ∃ tree : Tree, Lays tree depth v := by
  induction h generalizing depth with
  | null =>
      rcases exists_null with ⟨w, htext, hmeaning⟩
      exact ⟨.word w, fun _ _ _ => htext, congrArg Except.ok hmeaning⟩
  | bool b =>
      rcases exists_bool b with ⟨w, htext, hmeaning⟩
      exact ⟨.word w, fun _ _ _ => htext, congrArg Except.ok hmeaning⟩
  | int hshort =>
      rcases exists_number hshort with ⟨number, htext, hmeaning⟩
      exact ⟨.number number, fun _ _ _ => htext, hmeaning⟩
  | text t =>
      rcases exists_letters t with ⟨letters, hchars, hmeaning⟩
      refine ⟨.string letters, fun _ _ _ => ?_, congrArg (fun t => Except.ok (Value.text t)) hmeaning⟩
      rw [Tree.textWith, quoted, enclosed, hchars]
      rfl
  | @list items hitems ih =>
      -- Without items there is no line between the brackets, and the grammar has a form of its own for this.
      by_cases hne : items = []
      · rw [hne]
        exact ⟨.emptyArray .none, fun _ _ _ => rfl, rfl⟩
      · rcases exists_newLine (depth + 1) with ⟨gap, hgap⟩
        rcases exists_items hne fun v hv => ih v hv (depth + 1) with ⟨is, htext, hmeaning⟩
        refine ⟨.array gap is, fun write name hnames => ?_, ?_⟩
        · rw [Tree.textWith, htext write name hnames, hgap, layout,
            bracketed_eq _ _ _ (layoutItems_ne_nil hne _ _)]
        · rw [Tree.meaning, hmeaning, map_ok]
  | @map entries hkeys hdistinct hvalues ih =>
      by_cases hne : entries = []
      · rw [hne]
        exact ⟨.emptyObject .none, fun _ _ _ => rfl, rfl⟩
      · rcases exists_newLine (depth + 1) with ⟨gap, hgap⟩
        rcases exists_members hne hkeys fun e he => ih e he (depth + 1) with ⟨members, htext, hmeaning⟩
        refine ⟨.object gap members, fun write name hnames => ?_, ?_⟩
        · rw [Tree.textWith, htext write name hnames, hgap, layout,
            bracketed_eq _ _ _ (layoutEntries_ne_nil hne hkeys _ _)]
        · rw [Tree.meaning, hmeaning, map_ok, ofEntries_eq_self hkeys hdistinct]

/-- Data are laid out as the text of a document. It is read back as the data, and its text with bare keys is
    the data laid out with bare names. -/
theorem IsData.exists_document (h : IsData v) : ∃ d : Document, d.text = layout quote 0 v ∧
    d.bare = layout bareName 0 v ∧ read (some digitLimit) d.text = .ok v := by
  rcases h.exists_tree 0 with ⟨tree, htree⟩
  have htext (write : Key → Text) : Document.textWith write ⟨.none, tree, .none⟩ = tree.textWith write := by
    rw [Document.textWith]
    simp only [Gap.none, List.nil_append, List.append_nil]
  refine ⟨⟨.none, tree, .none⟩, ?_, ?_, ?_⟩
  · exact (htext _).trans (htree.text _ _ writesNames_quote)
  · exact (htext _).trans (htree.text _ _ writesNames_bare)
  · rw [Document.read_text]
    exact htree.meaning

/-! ## Characters outside ASCII -/

/-- The character is outside ASCII. -/
def isWide (c : CodePoint) : Bool :=
  128 ≤ c.toNat

mutual

/-- The characters of the names and texts in data, in the order in which they are written. -/
def content : Value → Text
  | .text t => t
  | .list items => contentItems items
  | .map entries => contentEntries entries
  | _ => []

/-- The characters in the items of a list. -/
def contentItems : List Value → Text
  | [] => []
  | v :: rest => content v ++ contentItems rest

/-- The characters in the entries of a mapping. -/
def contentEntries : List (Value × Value) → Text
  | [] => []
  | (k, v) :: rest => content k ++ content v ++ contentEntries rest

end

theorem filter_isWide_eq_nil {t : Text} (h : ∀ c ∈ t, isWide c = false) : t.filter isWide = [] :=
  List.filter_eq_nil_iff.mpr fun c hc => by rw [h c hc]; exact Bool.false_ne_true

/-- What is written for a character of ASCII is in ASCII. -/
theorem isWide_quoteChar_ascii : ∀ n < 128, ∀ c ∈ quoteChar (.ofNat n), isWide c = false := by
  decide

/-- A character outside ASCII is written as it is. -/
theorem quoteChar_wide (h : isWide c = true) : quoteChar c = [c] := by
  have hnumber : 128 ≤ c.toNat := of_decide_eq_true h
  -- Every character that is written in another way is in ASCII.
  have hne (d : CodePoint) (hd : d.toNat < 128) : c ≠ d := by
    rintro rfl
    omega
  rw [quoteChar, if_neg (hne _ (by decide)), if_neg (hne _ (by decide)), if_neg (hne _ (by decide)),
    if_neg (hne _ (by decide)), if_neg (hne _ (by decide)), if_neg (by omega), if_neg (by omega),
    if_neg (by omega)]

theorem filter_quoteChar (c : CodePoint) : (quoteChar c).filter isWide = [c].filter isWide := by
  cases hwide : isWide c with
  | true => rw [quoteChar_wide hwide]
  | false =>
      have hnumber : c.toNat < 128 := Nat.lt_of_not_le (of_decide_eq_false hwide)
      have hquoted := isWide_quoteChar_ascii c.toNat hnumber
      rw [c.ofNat_toNat] at hquoted
      rw [filter_isWide_eq_nil hquoted, List.filter_cons_of_neg (by rw [hwide]; exact Bool.false_ne_true),
        List.filter_nil]

theorem filter_quote (t : Text) : (quote t).filter isWide = t.filter isWide := by
  have hchars : (t.flatMap quoteChar).filter isWide = t.filter isWide := by
    induction t with
    | nil => rfl
    | cons c rest ih =>
        rw [List.flatMap_cons, List.filter_append, ih, filter_quoteChar, ← List.filter_append,
          List.singleton_append]
  have hmark : (Text.ofString "\"").filter isWide = [] := by decide
  rw [quote, List.filter_append, List.filter_append, hmark, hchars, List.nil_append, List.append_nil]

theorem filter_intText (n : Int) : (intText n).filter isWide = [] := by
  refine filter_isWide_eq_nil fun c hc => ?_
  rcases intText_mem hc with hdigit | rfl
  · rw [Text.isAsciiDigit, Bool.and_eq_true, decide_eq_true_eq, decide_eq_true_eq] at hdigit
    have hlast : c.toNat ≤ 57 := hdigit.2
    exact decide_eq_false (by omega)
  · decide

theorem filter_newLine (depth : Nat) : (newLine depth).filter isWide = [] := by
  refine filter_isWide_eq_nil fun c hc => ?_
  rw [newLine, Text.repeated] at hc
  rcases List.mem_cons.mp hc with rfl | hblank
  · decide
  · rw [List.eq_of_mem_replicate hblank]
    decide

/-- Between parts there is nothing outside of ASCII. -/
theorem filter_join {separator : Text} (h : separator.filter isWide = []) (parts : List Text) :
    (Text.join separator parts).filter isWide = (parts.map (List.filter isWide)).flatten := by
  induction parts with
  | nil => rfl
  | cons part rest ih =>
      cases rest with
      | nil => rw [Text.join, List.map_cons, List.map_nil, List.flatten_singleton]
      | cons next others =>
          have hjoin : Text.join separator (part :: next :: others) =
              part ++ separator ++ Text.join separator (next :: others) := rfl
          rw [hjoin, List.filter_append, List.filter_append, h, List.append_nil, ih]
          exact List.flatten_cons.symm

theorem filter_bracketed {opening closing : CodePoint} (hopening : isWide opening = false)
    (hclosing : isWide closing = false) (depth : Nat) (parts : List Text) :
    (bracketed opening closing depth parts).filter isWide =
      (parts.map (List.filter isWide)).flatten := by
  have hcomma : (Text.ofString "," ++ newLine (depth + 1)).filter isWide = [] := by
    rw [List.filter_append, filter_newLine]
    decide
  by_cases hne : parts = []
  · rw [hne, bracketed, List.isEmpty_nil, if_pos rfl]
    exact filter_isWide_eq_nil (by simpa using ⟨hopening, hclosing⟩)
  · rw [bracketed_eq _ _ _ hne, enclosed, List.cons_append,
      List.filter_cons_of_neg (by rw [hopening]; exact Bool.false_ne_true)]
    simp only [List.filter_append, filter_newLine, filter_join hcomma, List.nil_append, List.append_nil]
    rw [List.filter_cons_of_neg (by rw [hclosing]; exact Bool.false_ne_true), List.filter_nil,
      List.append_nil]

theorem filter_layoutItems {items : List Value}
    (h : ∀ v ∈ items, (layout quote depth v).filter isWide = (content v).filter isWide) :
    ((layoutItems quote depth items).map (List.filter isWide)).flatten =
      (contentItems items).filter isWide := by
  induction items with
  | nil => rfl
  | cons v rest ih =>
      rcases List.forall_mem_cons.mp h with ⟨hv, hrest⟩
      rw [layoutItems, List.map_cons, List.flatten_cons, hv, ih hrest, contentItems, List.filter_append]

theorem filter_layoutEntries {entries : List (Value × Value)}
    (hkeys : ∀ e ∈ entries, ∃ name, e.1 = .text name)
    (h : ∀ e ∈ entries, (layout quote depth e.2).filter isWide = (content e.2).filter isWide) :
    ((layoutEntries quote depth entries).map (List.filter isWide)).flatten =
      (contentEntries entries).filter isWide := by
  induction entries with
  | nil => rfl
  | cons e rest ih =>
      rcases List.forall_mem_cons.mp hkeys with ⟨⟨name, hname⟩, hothers⟩
      rcases List.forall_mem_cons.mp h with ⟨hvalue, hrest⟩
      rcases e with ⟨k, v⟩
      cases hname
      have hcolon : (Text.ofString ": ").filter isWide = [] := by decide
      rw [layoutEntries, List.map_cons, List.flatten_cons, ih hothers hrest, contentEntries, content]
      simp only [List.filter_append, filter_quote, hcolon, hvalue, List.append_nil]

/-- The characters outside of ASCII are written as they are, in their order, and no others are. -/
theorem IsData.filter_layout (h : IsData v) (depth : Nat) :
    (layout quote depth v).filter isWide = (content v).filter isWide := by
  induction h generalizing depth with
  | null => rfl
  | bool b => cases b <;> rfl
  | int hshort => exact filter_intText _
  | text t => exact filter_quote t
  | list _ ih =>
      rw [layout, filter_bracketed (by decide) (by decide), content,
        filter_layoutItems fun v hv => ih v hv (depth + 1)]
  | map hkeys _ _ ih =>
      rw [layout, filter_bracketed (by decide) (by decide), content,
        filter_layoutEntries hkeys fun e he => ih e he (depth + 1)]

end Json

end CallSnippets
