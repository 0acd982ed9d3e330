import CallSnippets.Text.CodePoint

/-!
# Texts

A text is the list of its code points. Everything this library does with text is a scan from left to
right, so the list is the view in which each step is recursion on the data, and no position or
length has to be carried along.

A string literal stands for its text wherever a text is expected.

## Main definitions

* `Text`: A list of code points.
* `Text.ofString`: The text of a string.
* `Text.join`: Texts with a separator between them.
* `Text.splitOn`: The pieces between the occurrences of a character.
* `Text.spanAt`, `Text.without`, `Text.dropLeading`: What is before, beside and behind a character.
* `Text.replace`: Every occurrence of one character replaced by a text.
-/

namespace CallSnippets

/-- A text is the list of its code points. -/
abbrev Text := List CodePoint

namespace Text

/-- The text of a string. -/
def ofString (s : String) : Text :=
  s.toList.map CodePoint.char

/-- A string literal may be written for its text. -/
instance : Coe String Text := ⟨ofString⟩

/-- The texts one after the other, with the separator between each two. -/
def join (separator : Text) : List Text → Text
  | [] => []
  | [t] => t
  | t :: rest => t ++ separator ++ join separator rest

/-- The pieces between the occurrences of a character: one more than there are occurrences. -/
def splitOn (separator : CodePoint) : Text → List Text
  | [] => [[]]
  | c :: rest =>
    if c = separator then [] :: splitOn separator rest
    else match splitOn separator rest with
      | [] => [[c]]
      | piece :: pieces => (c :: piece) :: pieces

/-- The text before the first occurrence of a character, and the text from there on. -/
def spanAt (c : CodePoint) (t : Text) : Text × Text :=
  t.span (· ≠ c)

/-- The text without any occurrence of a character. -/
def without (c : CodePoint) (t : Text) : Text :=
  t.filter (· ≠ c)

/-- The text without the occurrences of a character that it starts with. -/
def dropLeading (c : CodePoint) (t : Text) : Text :=
  t.dropWhile (· = c)

/-- Every occurrence of a character replaced by a text. -/
def replace (target : CodePoint) (replacement : Text) (t : Text) : Text :=
  t.flatMap fun c => if c = target then replacement else [c]

/-- The rest of the text after an opening part, if it starts with that part. -/
def dropStart? : Text → Text → Option Text
  | [], t => some t
  | _ :: _, [] => none
  | a :: opening, c :: t => if a = c then dropStart? opening t else none

/-- The text ends in a given closing part. -/
def endsWith (closing t : Text) : Bool :=
  closing.isSuffixOf t

/-- A text of one character repeated. -/
def repeated (count : Nat) (c : CodePoint) : Text :=
  List.replicate count c

/-- The pieces of a text at line feeds, with the line feeds taken out. -/
def lines (t : Text) : List Text :=
  splitOn '\n' t

end Text

end CallSnippets
