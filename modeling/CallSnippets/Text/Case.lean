import CallSnippets.Text.Basic
import CallSnippets.Text.Case.Context
import CallSnippets.Text.Case.Lower
import CallSnippets.Text.Case.Upper

/-!
# Upper and lower case

The full Unicode case mappings, which may change the length of a text. Each character is mapped on
its own but for the capital sigma, whose small form depends on whether a word ends there.

## Main definitions

* `upperChar`, `lowerChar`: The image of one character.
* `upper`, `lower`: The image of a text.
* `asciiLower`: Lower case for the letters from A to Z alone.
-/

namespace CallSnippets

namespace Text

/-- The image of a character under a mapping given by expansions and runs. -/
def caseImage (expansions : List (Nat × List Nat)) (runs : List CaseRun) (c : CodePoint) : Text :=
  match expansions.lookup c.toNat with
  | some image => image.map CodePoint.ofNat
  | none =>
    match runs.find? (·.covers c.toNat) with
    | some run => [run.image c.toNat]
    | none => [c]

/-- The upper-case image of a character. -/
def upperChar (c : CodePoint) : Text :=
  caseImage upperExpansions upperRuns c

/-- The lower-case image of a character that is not a capital sigma. -/
def lowerChar (c : CodePoint) : Text :=
  caseImage lowerExpansions lowerRuns c

/-- The text in upper case. -/
def upper (t : Text) : Text :=
  t.flatMap upperChar

/-- The capital sigma, the one letter whose small form depends on its place. -/
def capitalSigma : CodePoint := 'Σ'

/-- The nearest letter that counts, looking through the characters that are skipped, is cased. -/
def meetsCased : Text → Bool
  | [] => false
  | c :: rest => if isCaseIgnorable c then meetsCased rest else isCased c

/-- The small form of a capital sigma between the characters before it, nearest first, and those
    after it: the final form exactly where a word ends. -/
def smallSigma (before after : Text) : CodePoint :=
  if meetsCased before && !meetsCased after then 'ς' else 'σ'

/-- The lower-case image of a text that follows the given characters, nearest first. -/
def lowerAfter (before : Text) : Text → Text
  | [] => []
  | c :: rest =>
    (if c = capitalSigma then [smallSigma before rest] else lowerChar c) ++
      lowerAfter (c :: before) rest

/-- The text in lower case. -/
def lower (t : Text) : Text :=
  lowerAfter [] t

/-- The character in lower case if it is one of the letters from A to Z. -/
def asciiLowerChar (c : CodePoint) : CodePoint :=
  if 'A' ≤ c ∧ c ≤ 'Z' then CodePoint.ofNat (c.toNat + 32) else c

/-- The text with the letters from A to Z in lower case. -/
def asciiLower (t : Text) : Text :=
  t.map asciiLowerChar

end Text

end CallSnippets
