import CallSnippets.Text.CodePoint

/-!
# Runs of case mappings

Most letters move to their other case by a distance shared with their neighbours: all letters of a
run, or every second one where capital and small letters alternate.

## Main definitions

* `CaseRun`: The characters of a run and the distance they move by.
* `CaseRun.covers`: A code point belongs to the run.
-/

namespace CallSnippets

namespace Text

/-- Code points from `first` to `last`, `step` apart, that all move by `distance`. -/
structure CaseRun where
  /-- The first code point of the run. -/
  first : Nat
  /-- The last code point of the run. -/
  last : Nat
  /-- The distance between neighbours: one, or two where the cases alternate. -/
  step : Nat
  /-- What is added to a code point to get its image. -/
  distance : Int
  deriving DecidableEq, Repr

/-- The code point belongs to the run. -/
def CaseRun.covers (r : CaseRun) (n : Nat) : Bool :=
  r.first ≤ n && n ≤ r.last && (n - r.first) % r.step == 0

/-- The image of a code point that belongs to the run. -/
def CaseRun.image (r : CaseRun) (n : Nat) : CodePoint :=
  CodePoint.ofNat (n + r.distance).toNat

end Text

end CallSnippets
