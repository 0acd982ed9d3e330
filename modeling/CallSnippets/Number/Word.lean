/-!
# Machine words

Whole numbers of this library have any size. Where a number has to fit a signed word of 64 bits, it is
compared with the first one that does not.

## Main definitions

* `wordBound`: The first whole number beyond the range of signed words.
* `fitsWord`: Whether a whole number fits a signed word.
-/

namespace CallSnippets

/-- The first whole number beyond the range of signed words of 64 bits. -/
def wordBound : Nat := Nat.pow 2 63

/-- The whole number fits a signed word of 64 bits. -/
def fitsWord (n : Int) : Bool :=
  -wordBound ≤ n && n < wordBound

end CallSnippets
