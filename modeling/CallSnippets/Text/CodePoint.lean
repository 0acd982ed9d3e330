/-!
# Code points

A text in a document may be written with escapes, and an escape can name any code point. Most code
points are characters. The rest are the halves of the pairs that stand for characters beyond the
first plane: two of them side by side may mean a character to the writer, yet they stay two code
points here, differ from that character, and have no form in bytes.

So a code point is either a character or a half, and what only makes sense for characters has to say
what becomes of a half.

## Main definitions

* `CodePoint`: A character or a half of a pair.
* `CodePoint.toNat`, `CodePoint.ofNat`: The number of a code point.
* `CodePoint.isHalf`: The code point is a half.

## Theorems

* `CodePoint.ofNat_toNat`: A code point is known by its number.
-/

namespace CallSnippets

/-- A character, or a half of the pair that stands for a character beyond the first plane. The halves
    are numbered from 0. -/
inductive CodePoint where
  | char (c : Char)
  | half (n : Fin 2048)
deriving DecidableEq, Inhabited, Repr

/-- A character may be written for its code point. -/
instance : Coe Char CodePoint := ⟨CodePoint.char⟩

namespace CodePoint

/-- The number of the first half. -/
def firstHalf : Nat := 0xD800

/-- The number of a code point. -/
def toNat : CodePoint → Nat
  | char c => c.toNat
  | half n => firstHalf + n.val

/-- The code point with a number. -/
def ofNat (n : Nat) : CodePoint :=
  if h : firstHalf ≤ n ∧ n - firstHalf < 2048 then half ⟨n - firstHalf, h.2⟩ else char (Char.ofNat n)

/-- The code point is a half. -/
def isHalf : CodePoint → Bool
  | char _ => false
  | half _ => true

/-- Code points are in the order of their numbers. -/
instance : LE CodePoint := ⟨fun a b => a.toNat ≤ b.toNat⟩

/-- Code points are in the order of their numbers. -/
instance : LT CodePoint := ⟨fun a b => a.toNat < b.toNat⟩

instance (a b : CodePoint) : Decidable (a ≤ b) :=
  inferInstanceAs (Decidable (a.toNat ≤ b.toNat))

instance (a b : CodePoint) : Decidable (a < b) :=
  inferInstanceAs (Decidable (a.toNat < b.toNat))

/-- A code point is known by its number: no character has the number of a half. -/
theorem ofNat_toNat (c : CodePoint) : ofNat c.toNat = c := by
  cases c with
  | half n =>
    have h : firstHalf ≤ firstHalf + n.val ∧ firstHalf + n.val - firstHalf < 2048 := by
      have := n.isLt
      omega
    simp only [ofNat, toNat, dif_pos h, Nat.add_sub_cancel_left]
  | char c =>
    have h : ¬(firstHalf ≤ c.toNat ∧ c.toNat - firstHalf < 2048) := by
      have valid : c.val.toNat < 0xD800 ∨ 0xDFFF < c.val.toNat ∧ c.val.toNat < 0x110000 := c.valid
      simp only [firstHalf, Char.toNat]
      omega
    simp only [ofNat, toNat, dif_neg h, Char.ofNat_toNat]

end CodePoint

end CallSnippets
