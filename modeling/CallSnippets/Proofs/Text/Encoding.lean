import CallSnippets.Text.Encoding

/-!
# Texts that have bytes

A text has a form in bytes exactly if it is whole: if none of its code points is a half of a pair. Texts
that are put together are whole if their parts are, and a text that is written out in the library always
is, for strings hold characters alone.

## Main definitions

* `IsWhole`: No code point of a text is a half.

## Theorems

* `isSome_toBytes?`: Which texts have bytes.
* `toBytes?_inj`: Bytes are those of one text only.
* `isWhole_append`, `isWhole_join`: Texts that are put together.
-/

namespace CallSnippets

/-- No code point of a text is a half of a pair. -/
def IsWhole (t : Text) : Prop :=
  ∀ c ∈ t, c.isHalf = false

instance (t : Text) : Decidable (IsWhole t) :=
  inferInstanceAs (Decidable (∀ c ∈ t, c.isHalf = false))

variable {a b t : Text} {c : CodePoint}

theorem isSome_toChar? : (Text.toChar? c).isSome = true ↔ c.isHalf = false := by
  cases c with
  | char c => exact ⟨fun _ => rfl, fun _ => rfl⟩
  | half n => exact ⟨fun h => (by cases h), fun h => (by cases h)⟩

theorem isSome_mapM_toChar? : (t.mapM Text.toChar?).isSome = true ↔ IsWhole t := by
  induction t with
  | nil => exact ⟨fun _ c hc => absurd hc List.not_mem_nil, fun _ => rfl⟩
  | cons c rest ih =>
      rw [IsWhole, List.forall_mem_cons, ← isSome_toChar?, ← IsWhole, ← ih, List.mapM_cons]
      cases Text.toChar? c with
      | none => simp
      | some ch =>
          cases rest.mapM Text.toChar? with
          | none => simp
          | some chs => simp

/-- A text has bytes exactly if it is whole. -/
theorem isSome_toBytes? : (Text.toBytes? t).isSome = true ↔ IsWhole t := by
  rw [Text.toBytes?, Text.toString?, Option.isSome_map, Option.isSome_map, isSome_mapM_toChar?]

theorem eq_map_char {chars : List Char} (h : t.mapM Text.toChar? = some chars) :
    t = chars.map CodePoint.char := by
  induction t generalizing chars with
  | nil =>
      cases h
      rfl
  | cons c rest ih =>
      rw [List.mapM_cons] at h
      cases c with
      | half n => cases h
      | char c =>
          cases hrest : rest.mapM Text.toChar? with
          | none =>
              rw [hrest] at h
              cases h
          | some others =>
              rw [hrest] at h
              cases h
              rw [ih hrest, List.map_cons]

/-- Bytes are those of one text only. -/
theorem toBytes?_inj {bytes : ByteArray} (ha : Text.toBytes? a = some bytes)
    (hb : Text.toBytes? b = some bytes) : a = b := by
  rcases Option.map_eq_some_iff.mp ha with ⟨s, hs, hsbytes⟩
  rcases Option.map_eq_some_iff.mp hb with ⟨s', hs', hsbytes'⟩
  have hsame : s = s' := String.toByteArray_inj.mp (hsbytes.trans hsbytes'.symm)
  rw [← hsame] at hs'
  rcases Option.map_eq_some_iff.mp hs with ⟨chars, hchars, hstring⟩
  rcases Option.map_eq_some_iff.mp hs' with ⟨chars', hchars', hstring'⟩
  have hlist : chars' = chars := String.ofList_injective (hstring'.trans hstring.symm)
  rw [eq_map_char hchars, eq_map_char hchars', hlist]

theorem isWhole_append : IsWhole (a ++ b) ↔ IsWhole a ∧ IsWhole b :=
  List.forall_mem_append

theorem isWhole_ofString (s : String) : IsWhole (Text.ofString s) := by
  intro c hc
  rcases List.mem_map.mp hc with ⟨ch, _, rfl⟩
  rfl

theorem join_cons_cons (separator first second : Text) (others : List Text) :
    Text.join separator (first :: second :: others) =
      first ++ separator ++ Text.join separator (second :: others) := by
  rw [Text.join]
  exact List.cons_ne_nil second others

/-- Texts that are joined are whole if each of them is. -/
theorem isWhole_join {separator : Text} {ts : List Text} (hseparator : IsWhole separator) :
    IsWhole (Text.join separator ts) ↔ ∀ t ∈ ts, IsWhole t := by
  induction ts with
  | nil => exact ⟨fun _ t ht => absurd ht List.not_mem_nil, fun _ c hc => absurd hc List.not_mem_nil⟩
  | cons first rest ih =>
      rw [List.forall_mem_cons, ← ih]
      cases rest with
      | nil => exact ⟨fun h => ⟨h, fun c hc => absurd hc List.not_mem_nil⟩, fun h => h.1⟩
      | cons second others =>
          rw [join_cons_cons, isWhole_append, isWhole_append]
          exact ⟨fun h => ⟨h.1.1, h.2⟩, fun h => ⟨⟨h.1, hseparator⟩, h.2⟩⟩

end CallSnippets
