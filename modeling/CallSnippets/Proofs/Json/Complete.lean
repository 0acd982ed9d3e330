import CallSnippets.Proofs.Json.Meaning

/-!
# Documents are read

Every document is read, and as the value that its tree stands for. This is shown for a reader that does
not say how names are written: what it is given for names has to find the name in the text of a key, and
the colon behind it. The reader of JSON is this reader with names between marks. A document may be
written with its keys in some other way, and then it is read as the same value by the reader with names
of that sort, so the keys of a document are told apart from all the rest of it.

The reader is cut into pieces as the tree is, with a piece for each member. Fuel is counted by the
length of the text: a bracket or a comma stands between any two readers that call one another.

## Main definitions

* `NameReader`, `quotedName`: A reader of names, and the one that reads them between marks.
* `readBy`: Reads a text with names that are read by a reader of names.
* `Tree.meaning`, `Document.meaning`: The value of a tree, given what keys stand for.
* `ReadsKey`: A key is read as what it stands for.

## Theorems

* `readBy_quotedName`: The reader of JSON reads names between marks.
* `Tree.read_textWith`: A value is read as its meaning, whatever may stand behind it.
* `Document.readBy_textWith`: A document is read as its meaning, however its keys are written.
* `Document.read_text`: The text of a document is read as its meaning.
* `Document.read_none`: Every document is read if digits have no limit.
-/

namespace CallSnippets

namespace Json

/-- A reader of names. It hands back the name and the text behind it. -/
abbrev NameReader := Text → Except Failure (Text × Text)

/-- Reads a name between marks. -/
def quotedName : NameReader
  | '"' :: rest => readString rest.length ('"' :: rest) rest
  | t => .error (.malformed .expectedName t)

/-- Reads a member of an object with the white space behind it. -/
def readMember (readName : NameReader) (readValue : Text → Except Failure (Value × Text)) (t : Text) :
    Except Failure ((Value × Value) × Text) := do
  let (name, rest) ← readName t
  match skipSpace rest with
  | ':' :: rest =>
    let (value, rest) ← readValue (skipSpace rest)
    return ((.text name, value), skipSpace rest)
  | rest => .error (.malformed .expectedColon rest)

section

variable (readName : NameReader) (limit : Option Nat)

mutual

/-- Reads a value. -/
def readValueBy (fuel : Nat) (t : Text) : Except Failure (Value × Text) :=
  match fuel with
  | 0 => .error (.malformed .expectedValue t)
  | fuel + 1 =>
    match t with
    | '"' :: rest => do
      let (s, rest) ← readString rest.length t rest
      return (.text s, rest)
    | '\x7b' :: rest =>
      match skipSpace rest with
      | '\x7d' :: rest => .ok (.map [], rest)
      | rest => do
        let (entries, rest) ← readMembersBy fuel rest
        return (.map (Value.ofEntries entries), rest)
    | '[' :: rest =>
      match skipSpace rest with
      | ']' :: rest => .ok (.list [], rest)
      | rest => do
        let (items, rest) ← readItemsBy fuel rest
        return (.list items, rest)
    | t =>
      match readWord? t with
      | some found => .ok found
      | none => readNumber limit t

/-- Reads the members of an object up to its end, at least one. -/
def readMembersBy (fuel : Nat) (t : Text) : Except Failure (List (Value × Value) × Text) :=
  match fuel with
  | 0 => .error (.malformed .expectedName t)
  | fuel + 1 => do
    let (entry, rest) ← readMember readName (readValueBy fuel) t
    match rest with
    | '\x7d' :: rest => return ([entry], rest)
    | ',' :: rest =>
      let (entries, rest) ← readMembersBy fuel (skipSpace rest)
      return (entry :: entries, rest)
    | rest => .error (.malformed .expectedComma rest)

/-- Reads the items of an array up to its end, at least one. -/
def readItemsBy (fuel : Nat) (t : Text) : Except Failure (List Value × Text) :=
  match fuel with
  | 0 => .error (.malformed .expectedValue t)
  | fuel + 1 => do
    let (value, rest) ← readValueBy fuel t
    match skipSpace rest with
    | ']' :: rest => return ([value], rest)
    | ',' :: rest =>
      let (items, rest) ← readItemsBy fuel (skipSpace rest)
      return (value :: items, rest)
    | rest => .error (.malformed .expectedComma rest)

end

/-- Reads a whole text as one value with white space around it. -/
def readBy (t : Text) : Except Failure Value :=
  if t.head? = some Text.byteOrderMark then .error (.malformed .byteOrderMark t)
  else do
    let (value, rest) ← readValueBy readName limit (2 * t.length + 2) (skipSpace t)
    match skipSpace rest with
    | [] => return value
    | rest => .error (.malformed .extraData rest)

end

/-! ## Names between marks -/

section

variable (limit : Option Nat)

/-- The readers of values, members and items read names between marks. -/
theorem readsBy_quotedName (fuel : Nat) :
    (∀ t, readValueBy quotedName limit fuel t = readValue fuel limit t) ∧
      (∀ t, readMembersBy quotedName limit fuel t = readMembers fuel limit t) ∧
        ∀ t, readItemsBy quotedName limit fuel t = readItems fuel limit t := by
  induction fuel with
  | zero => exact ⟨fun t => rfl, fun t => rfl, fun t => rfl⟩
  | succ fuel ih =>
      rcases ih with ⟨hvalues, hmembers, hitems⟩
      -- The readers stand under binders, so they are rewritten as functions.
      have hvalue := funext hvalues
      have hmember := funext hmembers
      have hitem := funext hitems
      refine ⟨fun t => ?_, fun t => ?_, fun t => ?_⟩
      · unfold readValueBy readValue
        rewrite [hmember, hitem]
        rfl
      · unfold readMembersBy readMembers readMember
        rewrite [hvalue, hmember]
        split
        -- The pieces of the reader are those of a member, put together again.
        · next more =>
          rewrite [bind_assoc]
          refine congrArg _ (funext fun found => ?_)
          rcases found with ⟨name, rest⟩
          dsimp only
          cases skipSpace rest with
          | nil => rfl
          | cons c behind =>
              by_cases hc : c = keyMark
              · subst hc
                exact bind_assoc (readValue fuel limit (skipSpace behind)) _ _
              · simp [hc]
        · next hname =>
          rewrite [quotedName.eq_2 _ hname]
          rfl
      · unfold readItemsBy readItems
        rewrite [hvalue, hitem]
        rfl

/-- The reader of JSON reads names between marks. -/
theorem readBy_quotedName (t : Text) : readBy quotedName limit t = read limit t := by
  unfold readBy read
  rewrite [(readsBy_quotedName limit _).1]
  rfl

end

/-! ## Meanings -/

section

variable (limit : Option Nat) (name : Key → Text)

mutual

/-- The value that a tree stands for, given what keys stand for. -/
def Tree.meaning : Tree → Except Failure Value
  | .word w => .ok w.meaning
  | .number n => n.meaning limit
  | .string letters => .ok (.text (lettersText letters))
  | .emptyObject _ => .ok (.map [])
  | .object _ members => members.meaning.map fun entries => .map (Value.ofEntries entries)
  | .emptyArray _ => .ok (.list [])
  | .array _ items => items.meaning.map .list

/-- The entry that a member stands for. -/
def Member.meaning : Member → Except Failure (Value × Value)
  | .mk key _ value _ => value.meaning.map fun v => (.text (name key), v)

/-- The entries that members stand for, in order. -/
def Members.meaning : Members → Except Failure (List (Value × Value))
  | .last m => m.meaning.map fun entry => [entry]
  | .next m _ rest => m.meaning >>= fun entry => rest.meaning.map fun entries => entry :: entries

/-- The values that items stand for, in order. -/
def Items.meaning : Items → Except Failure (List Value)
  | .last value _ => value.meaning.map fun v => [v]
  | .next value _ _ rest => value.meaning >>= fun v => rest.meaning.map fun values => v :: values

end

end

/-- What a key stands for. -/
def Key.meaning (k : Key) : Text :=
  lettersText k.name

/-- The text starts with a character that does not stand behind a value. -/
def StartsValue (t : Text) : Prop :=
  ∃ c more, t = c :: more ∧ isEnd c = false

/-- A key is read as what it stands for, up to its colon. -/
structure ReadsKey (readName : NameReader) (write name : Key → Text) (k : Key) : Prop where
  /-- There is something to read. -/
  starts : StartsValue (write k)
  /-- The name is read, and the colon is found behind it. -/
  found : ∀ rest, ∃ behind, readName (write k ++ rest) = .ok (name k, behind) ∧
    skipSpace behind = keyMark :: rest

/-! ## Places in a text -/

theorem StartsValue.append {t : Text} (h : StartsValue t) (rest : Text) : StartsValue (t ++ rest) := by
  rcases h with ⟨c, more, rfl, hc⟩
  exact ⟨c, more ++ rest, rfl, hc⟩

theorem skipSpace_gap (gap : Gap) (t : Text) : skipSpace (gap.text ++ t) = skipSpace t :=
  List.dropWhile_append_of_pos gap.isSpace

theorem skipSpace_cons {c : CodePoint} (hc : isSpace c = false) (t : Text) :
    skipSpace (c :: t) = c :: t := by
  rw [skipSpace, List.dropWhile_cons, hc]
  rfl

theorem isSpace_of_isEnd {c : CodePoint} (hc : isEnd c = false) : isSpace c = false := by
  simp only [isEnd, Bool.or_eq_false_iff] at hc
  exact hc.1.1.1

/-- White space is skipped up to what it stands before. -/
theorem skipSpace_value (gap : Gap) {t : Text} (h : StartsValue t) :
    skipSpace (gap.text ++ t) = t := by
  rcases h with ⟨c, more, rfl, hc⟩
  rw [skipSpace_gap, skipSpace_cons (isSpace_of_isEnd hc)]

theorem ends_cons {c : CodePoint} (hc : isEnd c = true) (t : Text) : Ends (c :: t) := by
  intro d hd
  rw [← Option.some.inj hd]
  exact hc

theorem ends_gap (gap : Gap) {t : Text} (h : Ends t) : Ends (gap.text ++ t) := by
  cases gap with
  | mk text hspace =>
      cases text with
      | nil => exact h
      | cons c more =>
          refine ends_cons ?_ (more ++ t)
          simp only [isEnd, hspace c (List.mem_cons_self ..), Bool.true_or]

theorem Gap.ends (gap : Gap) : Ends gap.text := by
  have h := ends_gap gap (t := []) fun c hc => absurd hc (by simp)
  rwa [List.append_nil] at h

/-- Words start with one of a few characters. -/
theorem Word.exists_cons (w : Word) : ∃ c more, w.text = c :: more ∧ c ∈ ("tfnNI-" : Text) := by
  cases w with
  | mk text known =>
      simp only [words, List.map_cons, List.map_nil, List.mem_cons, List.not_mem_nil, or_false] at known
      rcases known with rfl | rfl | rfl | rfl | rfl | rfl <;> exact ⟨_, _, rfl, by decide⟩

/-- Numbers start with a digit or a minus. -/
theorem Number.exists_cons (n : Number) :
    ∃ c more, n.text = c :: more ∧ (c = '-' ∨ Text.isAsciiDigit c = true) := by
  rcases n.whole.toDigits.exists_cons with ⟨c, more, htext, hc⟩
  simp only [Number.text, htext, List.append_assoc]
  rcases n.isSign with h | h
  · rw [h]
    exact ⟨c, _, rfl, .inr hc⟩
  · rw [h]
    exact ⟨'-', _, rfl, .inl rfl⟩

/-- The first character of a value. -/
theorem Tree.head_textWith (write : Key → Text) (value : Tree) :
    ∃ c more, value.textWith write = c :: more ∧ isEnd c = false ∧ c ≠ Text.byteOrderMark := by
  cases value with
  | word w =>
      rcases w.exists_cons with ⟨c, more, htext, hc⟩
      have hall : ∀ d ∈ ("tfnNI-" : Text), isEnd d = false ∧ d ≠ Text.byteOrderMark := by decide
      exact ⟨c, more, htext, hall c hc⟩
  | number n =>
      rcases n.exists_cons with ⟨c, more, htext, rfl | hc⟩
      · exact ⟨'-', more, htext, by decide, by decide⟩
      · exact ⟨c, more, htext, isEnd_eq_false (by decide) hc, ne_of_isDigit hc (by decide)⟩
  | string letters => exact ⟨stringMark, _, rfl, by decide, by decide⟩
  | emptyObject gap => exact ⟨'\x7b', _, rfl, by decide, by decide⟩
  | object gap members => exact ⟨'\x7b', _, rfl, by decide, by decide⟩
  | emptyArray gap => exact ⟨'[', _, rfl, by decide, by decide⟩
  | array gap items => exact ⟨'[', _, rfl, by decide, by decide⟩

theorem Tree.startsValue (write : Key → Text) (value : Tree) : StartsValue (value.textWith write) := by
  rcases value.head_textWith write with ⟨c, more, htext, hc, _⟩
  exact ⟨c, more, htext, hc⟩

/-! ## Values, members and items -/

theorem length_le_chars (letters : List Letter) : letters.length ≤ (chars letters).length := by
  induction letters with
  | nil => exact Nat.le_refl 0
  | cons letter more ih =>
      have hletter : 1 ≤ letter.text.length := by
        cases letter <;> simp [Letter.text]
      rw [chars_cons, List.length_append, List.length_cons]
      omega

section

variable {readName : NameReader} {limit : Option Nat} {write name : Key → Text}

theorem readValueBy_quoted (fuel : Nat) (letters : List Letter) (rest : Text) :
    readValueBy readName limit (fuel + 1) (quoted letters ++ rest) =
      .ok (.text (lettersText letters), rest) := by
  have hlength : letters.length ≤ (chars letters ++ stringMark :: rest).length := by
    rw [List.length_append]
    exact Nat.le_trans (length_le_chars letters) (Nat.le_add_right _ _)
  rw [quoted, enclosed_append]
  unfold readValueBy
  simp only [readString_chars letters hlength, ok_bind, pure_eq_ok]

/-- What is neither a string nor in brackets is a word or a number. -/
theorem readValueBy_plain {t : Text} (fuel : Nat)
    (ht : StartsNot (fun c => c = stringMark ∨ c = '\x7b' ∨ c = '[') t) :
    readValueBy readName limit (fuel + 1) t =
      match readWord? t with
      | some found => .ok found
      | none => readNumber limit t := by
  unfold readValueBy
  split
  · exact absurd (ht stringMark rfl) (by decide)
  · exact absurd (ht '\x7b' rfl) (by decide)
  · exact absurd (ht '[' rfl) (by decide)
  · rfl

theorem readValueBy_emptyObject (fuel : Nat) (gap : Gap) (rest : Text) :
    readValueBy readName limit (fuel + 1) (enclosed '\x7b' '\x7d' gap.text ++ rest) =
      .ok (.map [], rest) := by
  rw [enclosed_append]
  unfold readValueBy
  simp only [skipSpace_gap, skipSpace_cons (show isSpace '\x7d' = false by decide)]

theorem readValueBy_emptyArray (fuel : Nat) (gap : Gap) (rest : Text) :
    readValueBy readName limit (fuel + 1) (enclosed '[' ']' gap.text ++ rest) =
      .ok (.list [], rest) := by
  rw [enclosed_append]
  unfold readValueBy
  simp only [skipSpace_gap, skipSpace_cons (show isSpace ']' = false by decide)]

theorem readValueBy_object (fuel : Nat) (gap : Gap) {t : Text} (ht : StartsValue t) (rest : Text) :
    readValueBy readName limit (fuel + 1) (enclosed '\x7b' '\x7d' (gap.text ++ t) ++ rest) =
      (readMembersBy readName limit fuel (t ++ .char '\x7d' :: rest)).map
        fun p => (.map (Value.ofEntries p.1), p.2) := by
  rw [enclosed_append, List.append_assoc]
  have hskip := skipSpace_value gap (ht.append (.char '\x7d' :: rest))
  rcases ht with ⟨c, more, rfl, hc⟩
  unfold readValueBy
  simp only [hskip]
  split
  · next h =>
    -- Members do not start with a bracket.
    rw [(List.cons.inj h).1] at hc
    exact absurd hc (by decide)
  · cases readMembersBy readName limit fuel (c :: more ++ .char '\x7d' :: rest) <;> rfl

theorem readValueBy_array (fuel : Nat) (gap : Gap) {t : Text} (ht : StartsValue t) (rest : Text) :
    readValueBy readName limit (fuel + 1) (enclosed '[' ']' (gap.text ++ t) ++ rest) =
      (readItemsBy readName limit fuel (t ++ .char ']' :: rest)).map
        fun p => (.list p.1, p.2) := by
  rw [enclosed_append, List.append_assoc]
  have hskip := skipSpace_value gap (ht.append (.char ']' :: rest))
  rcases ht with ⟨c, more, rfl, hc⟩
  unfold readValueBy
  simp only [hskip]
  split
  · next h =>
    rw [(List.cons.inj h).1] at hc
    exact absurd hc (by decide)
  · cases readItemsBy readName limit fuel (c :: more ++ .char ']' :: rest) <;> rfl

theorem readValueBy_word (fuel : Nat) (w : Word) (rest : Text) :
    readValueBy readName limit (fuel + 1) (w.text ++ rest) = .ok (w.meaning, rest) := by
  have hplain : StartsNot (fun c => c = stringMark ∨ c = '\x7b' ∨ c = '[') (w.text ++ rest) := by
    rcases w.exists_cons with ⟨c, more, htext, hc⟩
    have hall : ∀ d ∈ ("tfnNI-" : Text), ¬(d = stringMark ∨ d = '\x7b' ∨ d = '[') := by decide
    rw [htext]
    exact startsNot_cons (decide_eq_false (hall c hc)) _
  rw [readValueBy_plain fuel hplain, readWord?_text]

theorem readValueBy_number (fuel : Nat) (n : Number) {rest : Text} (hrest : Ends rest) :
    readValueBy readName limit (fuel + 1) (n.text ++ rest) =
      (n.meaning limit).map fun v => (v, rest) := by
  have hplain : StartsNot (fun c => c = stringMark ∨ c = '\x7b' ∨ c = '[') (n.text ++ rest) := by
    rcases n.exists_cons with ⟨c, more, htext, hc⟩
    rw [htext]
    refine startsNot_cons ?_ _
    rcases hc with rfl | hc
    · decide
    · simp only [ne_of_isDigit hc (d := stringMark) (by decide),
        ne_of_isDigit hc (d := '\x7b') (by decide), ne_of_isDigit hc (d := '[') (by decide), or_self,
        decide_false]
  rw [readValueBy_plain fuel hplain, readWord?_number]
  exact readNumber_text limit n hrest

theorem StartsValue.length_pos {t : Text} (h : StartsValue t) : 0 < t.length := by
  rcases h with ⟨c, more, rfl, _⟩
  exact Nat.succ_pos _

theorem Members.startsValue (members : Members) (hkeys : ∀ k ∈ members.keys, StartsValue (write k)) :
    StartsValue (members.textWith write) := by
  have hfirst : ∀ m : Member, (∀ k ∈ m.keys, StartsValue (write k)) →
      StartsValue (m.textWith write) := by
    intro m hm
    cases m with
    | mk key before value after =>
        simp only [Member.textWith, List.append_assoc]
        exact (hm key (List.mem_cons_self ..)).append _
  cases members with
  | last m => exact hfirst m hkeys
  | next m gap others =>
      rw [Members.keys, List.forall_mem_append] at hkeys
      rw [Members.textWith, List.append_assoc]
      exact (hfirst m hkeys.1).append _

theorem Items.startsValue (items : Items) : StartsValue (items.textWith write) := by
  cases items with
  | last value after => exact (value.startsValue write).append _
  | next value after gap others =>
      simp only [Items.textWith, List.append_assoc]
      exact (value.startsValue write).append _

mutual

/-- A value is read as its meaning, whatever stands behind it that may. -/
theorem Tree.read_textWith (value : Tree)
    (hkeys : ∀ k ∈ value.keys, ReadsKey readName write name k) {fuel : Nat}
    (hfuel : 2 * (value.textWith write).length ≤ fuel) {rest : Text} (hrest : Ends rest) :
    readValueBy readName limit fuel (value.textWith write ++ rest) =
      (value.meaning limit name).map fun v => (v, rest) := by
  -- There is a character to read, so there is fuel for a step.
  obtain ⟨fuel, rfl⟩ : ∃ n, fuel = n + 1 := by
    have hpos := (value.startsValue write).length_pos
    exact ⟨fuel - 1, by omega⟩
  cases value with
  | word w => exact readValueBy_word fuel w rest
  | number n => exact readValueBy_number fuel n hrest
  | string letters => exact readValueBy_quoted fuel letters rest
  | emptyObject gap => exact readValueBy_emptyObject fuel gap rest
  | object gap members =>
      simp only [Tree.textWith, enclosed, List.length_append, List.length_cons] at hfuel
      have hstarts := members.startsValue fun k hk => (hkeys k hk).starts
      rw [Tree.textWith, readValueBy_object fuel gap hstarts,
        members.read_textWith hkeys (by omega) rest, Tree.meaning]
      cases members.meaning limit name <;> rfl
  | emptyArray gap => exact readValueBy_emptyArray fuel gap rest
  | array gap items =>
      simp only [Tree.textWith, enclosed, List.length_append, List.length_cons] at hfuel
      rw [Tree.textWith, readValueBy_array fuel gap items.startsValue,
        items.read_textWith hkeys (by omega) rest, Tree.meaning]
      cases items.meaning limit name <;> rfl

/-- A member is read up to the mark behind it. -/
theorem Member.read_textWith (m : Member) (hkeys : ∀ k ∈ m.keys, ReadsKey readName write name k)
    {fuel : Nat} (hfuel : 2 * (m.textWith write).length ≤ fuel) {d : CodePoint}
    (hend : isEnd d = true) (hspace : isSpace d = false) (rest : Text) :
    readMember readName (readValueBy readName limit fuel) (m.textWith write ++ d :: rest) =
      (m.meaning limit name).map fun entry => (entry, d :: rest) := by
  cases m with
  | mk key before value after =>
      rw [Member.keys, List.forall_mem_cons] at hkeys
      simp only [Member.textWith, List.length_append] at hfuel
      have hlength : 2 * (value.textWith write).length ≤ fuel := by omega
      -- White space or the mark stands behind the value, which is all that the value asks for.
      have hvalue := value.read_textWith hkeys.2 hlength (ends_gap after (ends_cons hend rest))
      rcases hkeys.1.found (before.text ++ (value.textWith write ++ (after.text ++ d :: rest)))
        with ⟨behind, hname, hcolon⟩
      simp only [Member.textWith, List.append_assoc, readMember, hname, ok_bind, hcolon,
        skipSpace_value before ((value.startsValue write).append _), hvalue, Member.meaning]
      cases value.meaning limit name with
      | error failure => rfl
      | ok v =>
          simp only [map_ok, ok_bind, skipSpace_gap, skipSpace_cons hspace]
          rfl

theorem Members.read_textWith (members : Members)
    (hkeys : ∀ k ∈ members.keys, ReadsKey readName write name k) {fuel : Nat}
    (hfuel : 2 * (members.textWith write).length + 1 ≤ fuel) (rest : Text) :
    readMembersBy readName limit fuel (members.textWith write ++ .char '\x7d' :: rest) =
      (members.meaning limit name).map fun entries => (entries, rest) := by
  obtain ⟨fuel, rfl⟩ : ∃ n, fuel = n + 1 := ⟨fuel - 1, by omega⟩
  cases members with
  | last m =>
      unfold readMembersBy
      rw [Members.textWith, m.read_textWith hkeys (by rw [Members.textWith] at hfuel; omega) (by decide)
        (by decide), Members.meaning]
      cases m.meaning limit name <;> rfl
  | next m gap others =>
      rw [Members.keys, List.forall_mem_append] at hkeys
      simp only [Members.textWith, List.length_append, List.length_cons] at hfuel
      -- The comma makes up for the step that this member takes.
      have hlength : 2 * (others.textWith write).length + 1 ≤ fuel := by omega
      have hothers := others.read_textWith hkeys.2 hlength rest
      have hskip := skipSpace_value gap
        ((others.startsValue fun k hk => (hkeys.2 k hk).starts).append (.char '\x7d' :: rest))
      unfold readMembersBy
      simp only [Members.textWith, List.append_assoc, List.cons_append]
      rw [m.read_textWith hkeys.1 (by omega) (by decide) (by decide), Members.meaning]
      cases m.meaning limit name with
      | error failure => rfl
      | ok entry =>
          simp only [map_ok, ok_bind, hskip, hothers]
          cases others.meaning limit name <;> rfl

theorem Items.read_textWith (items : Items)
    (hkeys : ∀ k ∈ items.keys, ReadsKey readName write name k) {fuel : Nat}
    (hfuel : 2 * (items.textWith write).length + 1 ≤ fuel) (rest : Text) :
    readItemsBy readName limit fuel (items.textWith write ++ .char ']' :: rest) =
      (items.meaning limit name).map fun values => (values, rest) := by
  obtain ⟨fuel, rfl⟩ : ∃ n, fuel = n + 1 := ⟨fuel - 1, by omega⟩
  cases items with
  | last value after =>
      simp only [Items.textWith, List.length_append] at hfuel
      have hlength : 2 * (value.textWith write).length ≤ fuel := by omega
      have hends := ends_gap after (ends_cons (show isEnd ']' = true by decide) rest)
      have hvalue := value.read_textWith hkeys hlength hends
      unfold readItemsBy
      simp only [Items.textWith, List.append_assoc, hvalue, Items.meaning]
      cases value.meaning limit name with
      | error failure => rfl
      | ok v =>
          simp only [map_ok, ok_bind, skipSpace_gap, skipSpace_cons (show isSpace ']' = false by decide)]
          rfl
  | next value after gap others =>
      rw [Items.keys, List.forall_mem_append] at hkeys
      simp only [Items.textWith, List.length_append, List.length_cons] at hfuel
      have hlength : 2 * (value.textWith write).length ≤ fuel := by omega
      have hlength' : 2 * (others.textWith write).length + 1 ≤ fuel := by omega
      have hvalue := value.read_textWith hkeys.1 hlength (ends_gap after
        (ends_cons (show isEnd comma = true by decide)
          (gap.text ++ (others.textWith write ++ .char ']' :: rest))))
      have hothers := others.read_textWith hkeys.2 hlength' rest
      have hstarts : StartsValue (others.textWith write) := others.startsValue
      have hskip := skipSpace_value gap (hstarts.append (.char ']' :: rest))
      unfold readItemsBy
      simp only [Items.textWith, List.append_assoc, List.cons_append, hvalue, Items.meaning]
      cases value.meaning limit name with
      | error failure => rfl
      | ok v =>
          simp only [map_ok, ok_bind, skipSpace_gap,
            skipSpace_cons (show isSpace comma = false by decide), hskip, hothers]
          cases others.meaning limit name <;> rfl

end

/-! ## Documents -/

/-- A text with nothing but a value and white space in it does not start with another mark. -/
theorem Document.head?_textWith (d : Document) :
    (d.textWith write).head? ≠ some Text.byteOrderMark := by
  cases d with
  | mk before value after =>
      cases before with
      | mk text hspace =>
          simp only [Document.textWith, List.append_assoc]
          cases text with
          | nil =>
              rcases value.head_textWith write with ⟨c, more, htext, _, hc⟩
              rw [htext]
              exact fun h => hc (Option.some.inj h)
          | cons c more =>
              -- The white space in front is no such mark.
              intro h
              have hc := hspace c (List.mem_cons_self ..)
              rw [Option.some.inj h] at hc
              exact absurd hc (by decide)

/-- A document is read as its meaning, however its keys are written. -/
theorem Document.readBy_textWith (d : Document)
    (hkeys : ∀ k ∈ d.keys, ReadsKey readName write name k) :
    readBy readName limit (d.textWith write) = d.value.meaning limit name := by
  have hskip : skipSpace (d.textWith write) = d.value.textWith write ++ d.after.text := by
    rw [Document.textWith, List.append_assoc]
    exact skipSpace_value d.before ((d.value.startsValue write).append d.after.text)
  -- Nothing is left over behind the value.
  have hafter : skipSpace d.after.text = [] := by
    have h := skipSpace_gap d.after []
    rwa [List.append_nil] at h
  have hfuel : 2 * (d.value.textWith write).length ≤ 2 * (d.textWith write).length + 2 := by
    simp only [Document.textWith, List.length_append]
    omega
  rw [readBy, if_neg d.head?_textWith, hskip, d.value.read_textWith hkeys hfuel d.after.ends]
  cases d.value.meaning limit name with
  | error failure => rfl
  | ok v =>
      simp only [map_ok, ok_bind, hafter]
      rfl

end

theorem skipSpace_colon (gap : Gap) (rest : Text) :
    skipSpace (gap.text ++ keyMark :: rest) = keyMark :: rest := by
  rw [skipSpace_gap, skipSpace_cons (by decide)]

/-- A key between marks is read as the text of its letters. -/
theorem readsKey_quotedName (k : Key) : ReadsKey quotedName Key.text Key.meaning k := by
  constructor
  case starts => exact ⟨stringMark, _, rfl, by decide⟩
  case found =>
    intro rest
    refine ⟨k.gap.text ++ keyMark :: rest, ?_, skipSpace_colon k.gap rest⟩
    have hlength : k.name.length ≤
        (chars k.name ++ stringMark :: (k.gap.text ++ keyMark :: rest)).length := by
      rw [List.length_append]
      exact Nat.le_trans (length_le_chars k.name) (Nat.le_add_right _ _)
    simp only [Key.text, quoted, enclosed_append, List.append_assoc, List.cons_append, List.nil_append]
    exact readString_chars k.name hlength _ _

/-- The text of a document is read as its meaning. -/
theorem Document.read_text (d : Document) (limit : Option Nat) :
    read limit d.text = d.value.meaning limit Key.meaning := by
  rw [← readBy_quotedName]
  exact d.readBy_textWith fun k _ => readsKey_quotedName k

/-! ## Without a limit -/

section

variable {name : Key → Text}

theorem Number.meaning_none (n : Number) : ∃ v, n.meaning none = .ok v := by
  unfold Number.meaning
  by_cases hwhole : n.isWhole = true
  · simp only [if_pos hwhole]
    exact ⟨_, rfl⟩
  · simp only [if_neg hwhole]
    exact ⟨_, rfl⟩

mutual

/-- Without a limit on digits every tree stands for a value. -/
theorem Tree.meaning_none (value : Tree) : ∃ v, value.meaning none name = .ok v := by
  cases value with
  | word w => exact ⟨w.meaning, rfl⟩
  | number n => exact n.meaning_none
  | string letters => exact ⟨_, rfl⟩
  | emptyObject gap => exact ⟨_, rfl⟩
  | object gap members =>
      rcases members.meaning_none with ⟨entries, h⟩
      exact ⟨_, by rw [Tree.meaning, h]; rfl⟩
  | emptyArray gap => exact ⟨_, rfl⟩
  | array gap items =>
      rcases items.meaning_none with ⟨values, h⟩
      exact ⟨_, by rw [Tree.meaning, h]; rfl⟩

theorem Member.meaning_none (m : Member) : ∃ entry, m.meaning none name = .ok entry := by
  cases m with
  | mk key before value after =>
      rcases value.meaning_none with ⟨v, h⟩
      exact ⟨_, by rw [Member.meaning, h]; rfl⟩

theorem Members.meaning_none (members : Members) :
    ∃ entries, members.meaning none name = .ok entries := by
  cases members with
  | last m =>
      rcases m.meaning_none with ⟨entry, h⟩
      exact ⟨_, by rw [Members.meaning, h]; rfl⟩
  | next m gap others =>
      rcases m.meaning_none with ⟨entry, h⟩
      rcases others.meaning_none with ⟨entries, hothers⟩
      exact ⟨_, by rw [Members.meaning, h, hothers]; rfl⟩

theorem Items.meaning_none (items : Items) : ∃ values, items.meaning none name = .ok values := by
  cases items with
  | last value after =>
      rcases value.meaning_none with ⟨v, h⟩
      exact ⟨_, by rw [Items.meaning, h]; rfl⟩
  | next value after gap others =>
      rcases value.meaning_none with ⟨v, h⟩
      rcases others.meaning_none with ⟨values, hothers⟩
      exact ⟨_, by rw [Items.meaning, h, hothers]; rfl⟩

end

end

/-- Without a limit on digits every document is read. -/
theorem Document.read_none (d : Document) : ∃ v, read none d.text = .ok v := by
  rw [d.read_text]
  exact d.value.meaning_none

end Json

end CallSnippets
