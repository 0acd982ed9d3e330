import CallSnippets.Files.Name
import CallSnippets.Proofs.Text.Encoding

/-!
# Names and their bytes

A name is known under the text that its bytes are. No byte is lost on the way from bytes to that text, so two
names are known under the same text only if their bytes are the same. A text without halves is known as it
is, for its bytes are those of its characters one after the other.

## Theorems

* `leadingChar?_eq_some`: Bytes start with a character exactly if they start with its bytes.
* `fileBytes?_ofFileBytes`: The bytes of the text that bytes are.
* `fileBytes?_known`, `known_eq_known_iff`: A name is known by its bytes.
* `known_of_isWhole`: A text without halves is known as it is.
* `fileBytes?_join`: Names that are joined have the bytes that they have one by one.
-/

namespace CallSnippets

namespace Text

variable {a b t : Text} {c : CodePoint} {bytes rest : List UInt8} {ch : Char}
  {broken : UInt8 → List UInt8 → CodePoint × Nat}

/-! ## Bytes of texts -/

theorem fileBytes?_cons {first : List UInt8} (hc : c.fileBytes? = some first)
    (ht : fileBytes? t = some rest) : fileBytes? (c :: t) = some (first ++ rest) := by
  rw [fileBytes?, hc, ht]

/-- A text is a name exactly if each of its code points stands for bytes. -/
theorem isSome_fileBytes? :
    (fileBytes? t).isSome = true ↔ ∀ c ∈ t, c.fileBytes?.isSome = true := by
  induction t with
  | nil => exact ⟨fun _ c hc => absurd hc List.not_mem_nil, fun _ => rfl⟩
  | cons c rest ih =>
      rw [List.forall_mem_cons, ← ih, fileBytes?]
      cases c.fileBytes? with
      | none => simp
      | some bytes => cases fileBytes? rest <;> simp

/-- The bytes of two texts one behind the other. -/
theorem fileBytes?_append (a b : Text) : fileBytes? (a ++ b) =
    (fileBytes? a).bind fun bytes => (fileBytes? b).map fun more => bytes ++ more := by
  induction a with
  | nil => cases hb : fileBytes? b <;> simp [fileBytes?, hb]
  | cons c rest ih =>
      rw [List.cons_append, fileBytes?, fileBytes?, ih]
      cases c.fileBytes? <;> cases fileBytes? rest <;> cases fileBytes? b <;> simp

/-- Texts with the same bytes one by one have the same bytes together. -/
theorem fileBytes?_join (separator : Text) {ts ts' : List Text}
    (h : ts.map fileBytes? = ts'.map fileBytes?) :
    fileBytes? (Text.join separator ts) = fileBytes? (Text.join separator ts') := by
  induction ts generalizing ts' with
  | nil => rw [List.map_eq_nil_iff.mp h.symm]
  | cons first others ih =>
      cases ts' with
      | nil => cases h
      | cons first' others' =>
          rcases List.cons.inj h with ⟨hfirst, hothers⟩
          cases others with
          | nil =>
              rw [List.map_eq_nil_iff.mp hothers.symm]
              exact hfirst
          | cons second more =>
              cases others' with
              | nil => cases hothers
              | cons second' more' =>
                  rw [join_cons_cons, join_cons_cons, fileBytes?_append, fileBytes?_append, ih hothers,
                    fileBytes?_append, fileBytes?_append, hfirst]

/-- What ends in the same way differs in front. -/
theorem fileBytes?_append_cancel {ending : List UInt8} (hb : fileBytes? b = some ending)
    (h : fileBytes? (a ++ b) = fileBytes? (t ++ b)) : fileBytes? a = fileBytes? t := by
  rw [fileBytes?_append, fileBytes?_append, hb] at h
  cases ha : fileBytes? a with
  | none => cases ht : fileBytes? t <;> simp [ha, ht] at h ⊢
  | some bytes => cases ht : fileBytes? t <;> simp [ha, ht] at h ⊢; exact h

/-! ## Characters in bytes -/

/-- Bytes start with a character exactly if they start with its bytes. -/
theorem leadingChar?_eq_some :
    leadingChar? bytes = some ch ↔ ∃ more, bytes = String.utf8EncodeChar ch ++ more := by
  rw [leadingChar?]
  constructor
  · intro h
    rcases ByteArray.exists_of_utf8DecodeChar?_eq_some h with ⟨more, hmore⟩
    have htake : bytes.take 4 = String.utf8EncodeChar ch ++ more.data.toList := by
      have hlists := congrArg (fun b => b.data.toList) hmore
      simpa only [ByteArray.data_append, Array.toList_append, List.toList_data_toByteArray] using hlists
    exact ⟨more.data.toList ++ bytes.drop 4, by
      rw [← List.append_assoc, ← htake, List.take_append_drop]⟩
  · rintro ⟨more, rfl⟩
    have hlength : (String.utf8EncodeChar ch).length ≤ 4 := by
      rw [String.length_utf8EncodeChar]
      exact ch.utf8Size_le_four
    rw [List.take_append, List.take_of_length_le hlength, List.toByteArray_append,
      ByteArray.utf8DecodeChar?_utf8EncodeChar_append]

/-- Only bytes from 80 on start no character. -/
theorem byte_of_leadingChar? {first : UInt8} (h : leadingChar? (first :: rest) = none) :
    0x80 ≤ first.toNat := by
  refine Nat.not_lt.mp fun hsmall => ?_
  have hvalid : first.toNat.isValidChar := .inl (by omega)
  have hval : (Char.ofNat first.toNat).val.toNat = first.toNat := by
    rw [Char.ofNat, dif_pos hvalid]
    rfl
  have hsize : (Char.ofNat first.toNat).utf8Size = 1 := by
    rw [Char.utf8Size_eq_one_iff, UInt32.le_iff_toNat_le, hval]
    exact Nat.le_of_lt_succ hsmall
  have hbytes : String.utf8EncodeChar (Char.ofNat first.toNat) = [first] := by
    rw [String.utf8EncodeChar_eq_singleton hsize]
    congr 1
    rw [← UInt8.toNat_inj, UInt32.toNat_toUInt8, hval]
    exact Nat.mod_eq_of_lt first.toNat_lt
  have hsome : leadingChar? (first :: rest) = some (Char.ofNat first.toNat) :=
    leadingChar?_eq_some.mpr ⟨rest, by rw [hbytes]; rfl⟩
  rw [h] at hsome
  cases hsome

/-! ## Texts of bytes -/

/-- Bytes that are passed over are left out. -/
theorem decodeWith_drop (passed : Nat) (bytes : List UInt8) :
    decodeWith broken passed bytes = decodeWith broken 0 (bytes.drop passed) := by
  induction bytes generalizing passed with
  | nil => rw [List.drop_nil]; cases passed <;> rfl
  | cons first more ih =>
      cases passed with
      | zero => rfl
      | succ passed => exact ih passed

/-- The bytes of a character are read as this character. -/
theorem decodeWith_char (ch : Char) (rest : List UInt8) :
    decodeWith broken 0 (String.utf8EncodeChar ch ++ rest) =
      CodePoint.char ch :: decodeWith broken 0 rest := by
  have hlead : leadingChar? (String.utf8EncodeChar ch ++ rest) = some ch :=
    leadingChar?_eq_some.mpr ⟨rest, rfl⟩
  have hlength : (String.utf8EncodeChar ch).length = ch.utf8Size := String.length_utf8EncodeChar ch
  cases hbytes : String.utf8EncodeChar ch with
  | nil =>
      rw [hbytes] at hlength
      exact absurd hlength (Nat.ne_of_lt ch.utf8Size_pos)
  | cons first more =>
      rw [hbytes, List.cons_append] at hlead
      rw [hbytes, List.length_cons] at hlength
      rw [List.cons_append, decodeWith, hlead]
      simp only
      rw [decodeWith_drop, ← hlength, Nat.add_sub_cancel, List.drop_left]

/-- A text without halves is read from its bytes again, whatever stands for broken characters. -/
theorem decodeWith_of_isWhole (broken : UInt8 → List UInt8 → CodePoint × Nat) (h : IsWhole t) :
    ∃ bytes, fileBytes? t = some bytes ∧ decodeWith broken 0 bytes = t := by
  induction t with
  | nil => exact ⟨[], rfl, rfl⟩
  | cons c rest ih =>
      rcases List.forall_mem_cons.mp h with ⟨hc, hrest⟩
      rcases ih hrest with ⟨bytes, hbytes, hdecode⟩
      cases c with
      | half n => cases hc
      | char ch => exact ⟨_, fileBytes?_cons rfl hbytes, by rw [decodeWith_char, hdecode]⟩

theorem fileBytes?_ofByte {first : UInt8} (h : 0x80 ≤ first.toNat) :
    (CodePoint.ofByte first).fileBytes? = some [first] := by
  have hlt := first.toNat_lt
  have hrange : 0x480 ≤ 0x400 + first.toNat ∧ 0x400 + first.toNat < 0x500 := by omega
  rw [CodePoint.ofByte, CodePoint.fileBytes?, if_pos hrange, Nat.add_sub_cancel_left, UInt8.ofNat_toNat]

/-- No byte is lost in the text that bytes are. -/
theorem fileBytes?_ofFileBytes (bytes : List UInt8) : fileBytes? (ofFileBytes bytes) = some bytes := by
  induction hlength : bytes.length using Nat.strongRecOn generalizing bytes with
  | ind n ih =>
      cases bytes with
      | nil => rfl
      | cons first rest =>
          rw [ofFileBytes]
          cases hlead : leadingChar? (first :: rest) with
          | some ch =>
              rcases leadingChar?_eq_some.mp hlead with ⟨more, hmore⟩
              have hshort : more.length < n := by
                have hsize := ch.utf8Size_pos
                rw [← hlength, hmore, List.length_append, String.length_utf8EncodeChar]
                omega
              rw [hmore, decodeWith_char]
              exact fileBytes?_cons rfl (ih _ hshort more rfl)
          | none =>
              have hshort : rest.length < n := by rw [← hlength]; exact Nat.lt_succ_self _
              rw [decodeWith, hlead]
              exact fileBytes?_cons (fileBytes?_ofByte (byte_of_leadingChar? hlead)) (ih _ hshort rest rfl)

/-! ## Names -/

/-- The text under which a name is known has the bytes of the name. -/
@[simp]
theorem fileBytes?_known (t : Text) : fileBytes? (known t) = fileBytes? t := by
  rw [known]
  cases hbytes : fileBytes? t with
  | none => exact hbytes
  | some bytes => exact fileBytes?_ofFileBytes bytes

/-- Names are known under one text exactly if they have the same bytes. -/
theorem known_eq_known_iff (ha : fileBytes? a = some bytes) :
    known a = known b ↔ fileBytes? a = fileBytes? b := by
  constructor
  · intro h
    rw [← fileBytes?_known a, h, fileBytes?_known]
  · intro h
    rw [known, known, ← h, ha]

/-- A text without halves is known as it is. -/
theorem known_of_isWhole (h : IsWhole t) : known t = t := by
  rcases decodeWith_of_isWhole (fun b _ => (.ofByte b, 0)) h with ⟨bytes, hbytes, hdecode⟩
  rw [known, hbytes]
  exact hdecode

/-- Texts without halves differ in their bytes. -/
theorem eq_of_fileBytes? (ha : IsWhole a) (hb : IsWhole b) (h : fileBytes? a = fileBytes? b) : a = b := by
  rcases decodeWith_of_isWhole (fun b _ => (.ofByte b, 0)) ha with ⟨bytes, hbytes, _⟩
  rw [← known_of_isWhole ha, ← known_of_isWhole hb]
  exact (known_eq_known_iff hbytes).mpr h

/-- Two halves may stand for the bytes of one character, and are then known as that. -/
example : known [CodePoint.ofNat 0xDCC3, CodePoint.ofNat 0xDCA9] = known "é" ∧
    known [CodePoint.ofNat 0xDCFF] = [CodePoint.ofNat 0xDCFF] := by
  decide +kernel

end Text

end CallSnippets
