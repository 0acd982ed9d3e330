import CallSnippets.Text.Basic

/-!
# Texts without control sequences

A terminal takes an escape character and a bracket as the start of a control sequence: parameters,
then signs between them and the end, then one character that ends it. Each of the three parts has
characters of its own, so where a sequence ends is never in doubt. Where a text does not go to a
terminal, control sequences say nothing and are taken out. What only starts like one is kept.

## Main definitions

* `Text.dropControl?`: The text behind a control sequence.
* `Text.plain`: A text without control sequences.
* `Text.captured`: What was told, as it is kept.

## Theorems

* `Text.length_dropControl?`: A control sequence is not empty.
-/

namespace CallSnippets

namespace Text

/-- The character that control sequences start with. -/
def escapeChar : CodePoint := '\x1b'

/-- The character may be a parameter of a control sequence. -/
def isControlParameter (c : CodePoint) : Bool :=
  0x30 ≤ c.toNat && c.toNat ≤ 0x3F

/-- The character may stand between the parameters of a control sequence and its end. -/
def isControlSign (c : CodePoint) : Bool :=
  0x20 ≤ c.toNat && c.toNat ≤ 0x2F

/-- The character ends a control sequence. -/
def isControlEnd (c : CodePoint) : Bool :=
  0x40 ≤ c.toNat && c.toNat ≤ 0x7E

/-- The text behind the control sequence that a text starts with. -/
def dropControl? : Text → Option Text
  | c :: '[' :: rest =>
    if c = escapeChar then
      match (rest.dropWhile isControlParameter).dropWhile isControlSign with
      | last :: behind => if isControlEnd last then some behind else none
      | [] => none
    else none
  | _ => none

/-- Dropping characters from the start of a text does not make it longer. -/
theorem length_dropWhile_le (test : CodePoint → Bool) (t : Text) :
    (t.dropWhile test).length ≤ t.length := by
  induction t with
  | nil => exact Nat.le_refl 0
  | cons c rest ih =>
    rw [List.dropWhile_cons]
    split
    · exact Nat.le_succ_of_le ih
    · exact Nat.le_refl _

/-- A control sequence is not empty, so the text behind it is shorter. -/
theorem length_dropControl? {t behind : Text} (h : dropControl? t = some behind) :
    behind.length < t.length := by
  unfold dropControl? at h
  split at h
  · rename_i rest
    split at h
    · split at h
      · rename_i last behind' found
        split at h
        · have shorter := length_dropWhile_le isControlSign (rest.dropWhile isControlParameter)
          have shorter' := length_dropWhile_le isControlParameter rest
          rw [found] at shorter
          simp only [Option.some.injEq] at h
          subst h
          simp only [List.length_cons] at shorter ⊢
          omega
        · exact absurd h (by simp)
      · exact absurd h (by simp)
    · exact absurd h (by simp)
  · exact absurd h (by simp)

/-- A text without control sequences. -/
def plain (t : Text) : Text :=
  match _h : dropControl? t with
  | some behind => plain behind
  | none =>
    match t with
    | [] => []
    | c :: rest => c :: plain rest
termination_by t.length
decreasing_by
  · exact length_dropControl? ‹_›
  · exact Nat.lt_succ_self _

/-- What was told, as it is kept where it is not shown at once: an end of a line that is written with
    two characters is kept as one. -/
def captured : Text → Text
  | [] => []
  | '\r' :: '\n' :: rest => '\n' :: captured rest
  | c :: rest => c :: captured rest

end Text

end CallSnippets
