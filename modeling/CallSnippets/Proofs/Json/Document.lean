import CallSnippets.Json.Reader
import CallSnippets.Literal.Token
import CallSnippets.Proofs.Snippet.Scan

/-!
# JSON documents

A JSON text taken apart: the tree of its values, with all white space and with the letters of its
strings and the digits of its numbers as they are written. Nothing is lost, so the text can be put
together again, and it can also be put together with something else for its keys.

The parts carry what makes them well formed, so every document has a text that is JSON. The words are
those that the reader knows: the three of JSON, and those for what no number of JSON can say.

## Main definitions

* `Gap`, `Letter`, `Number`, `Word`: The parts of a text that have no parts of interest.
* `chars`, `quoted`: The text of letters, without and with marks around it.
* `plainLetters`, `Whole.ofDigit`: Parts made from what they are written as.
* `Key`: The name of a member with the white space before its colon.
* `Tree`, `Member`, `Members`, `Items`: The values and what is in them.
* `Tree.textWith`: The text of a value, given how keys are written.
* `Tree.keys`: The keys of a value at every depth.
* `Document`: A value with the white space around it.
* `Document.text`, `Document.bare`: Its text, and its text with bare keys.
-/

namespace CallSnippets

namespace Json

/-- White space between parts. -/
structure Gap where
  /-- The characters. -/
  text : Text
  /-- All of them are white space. -/
  isSpace : ∀ c ∈ text, isSpace c = true

/-- No white space. -/
def Gap.none : Gap :=
  ⟨[], by decide⟩

/-- A blank. -/
def Gap.blank : Gap :=
  ⟨" ", by decide⟩

/-- The character stands for itself inside of strings. -/
def isPlain (c : CodePoint) : Bool :=
  c ≠ '"' && c ≠ '\\' && 0x20 ≤ c.toNat

/-- A letter of a string. -/
inductive Letter where
  /-- A character that stands for itself. -/
  | plain (c : CodePoint) (isPlain : isPlain c = true)
  /-- An escape of one letter. -/
  | escape (c : CodePoint) (isEscape : (simpleEscape c).isSome = true)
  /-- An escape by code point. -/
  | code (digits : Text) (four : digits.length = 4)
      (hex : ∀ c ∈ digits, (Text.hexValue c).isSome = true)

/-- The mark that an escape starts with. -/
abbrev escapeMark : CodePoint := '\\'

/-- The mark that tells an escape by code point from the others. -/
abbrev codeMark : CodePoint := 'u'

/-- The letter as it is written. -/
def Letter.text : Letter → Text
  | plain c _ => [c]
  | escape c _ => [escapeMark, c]
  | code digits _ _ => escapeMark :: codeMark :: digits

/-- A quotation mark in a string. -/
def Letter.mark : Letter :=
  .escape '"' (by decide)

/-- The letters of a text whose characters stand for themselves. -/
def plainLetters (t : Text) (h : ∀ c ∈ t, isPlain c = true) : List Letter :=
  t.pmap Letter.plain h

/-- The text of letters. -/
def chars (letters : List Letter) : Text :=
  letters.flatMap Letter.text

/-- Digits, one at least. -/
structure Digits where
  /-- The digits. -/
  text : Text
  /-- All of them are digits. -/
  isDigit : ∀ c ∈ text, Text.isAsciiDigit c = true
  /-- There is one. -/
  nonempty : text ≠ []

/-- The digits of a whole number. -/
structure Whole extends Digits where
  /-- Nothing follows a zero. -/
  zero : text.head? = some (.char '0') → text.tail = []

/-- A whole number of one digit. -/
def Whole.ofDigit (c : CodePoint) (h : Text.isAsciiDigit c = true) : Whole where
  text := [c]
  isDigit := List.forall_mem_singleton.mpr h
  nonempty := List.cons_ne_nil c []
  zero _ := rfl

/-- An exponent. -/
structure Exponent where
  /-- The letter that it starts with. -/
  letter : CodePoint
  /-- The letter is one of two. -/
  isLetter : letter = 'e' ∨ letter = 'E'
  /-- Its sign, if it has one. -/
  sign : Text
  /-- There is no sign, or one of two. -/
  isSign : sign = [] ∨ sign = "+" ∨ sign = "-"
  /-- Its digits. -/
  digits : Digits

/-- The exponent as it is written. -/
def Exponent.text (e : Exponent) : Text :=
  e.letter :: e.sign ++ e.digits.text

/-- The digits behind a point, with the point. -/
def Digits.fraction (digits : Digits) : Text :=
  '.' :: digits.text

/-- A number. -/
structure Number where
  /-- Its sign, if it has one. -/
  sign : Text
  /-- There is no sign, or a minus. -/
  isSign : sign = [] ∨ sign = "-"
  /-- The digits before the point. -/
  whole : Whole
  /-- The digits behind the point. -/
  fraction : Option Digits
  /-- The exponent. -/
  exponent : Option Exponent

/-- The number as it is written. -/
def Number.text (n : Number) : Text :=
  n.sign ++ n.whole.text ++ n.fraction.elim [] Digits.fraction ++ n.exponent.elim [] Exponent.text

/-- The number is a whole one as it is written: it has neither fraction nor exponent. -/
def Number.isWhole (n : Number) : Bool :=
  n.fraction.isNone && n.exponent.isNone

/-- A word. -/
structure Word where
  /-- The word as it is written. -/
  text : Text
  /-- The reader knows it. -/
  known : text ∈ words.map Prod.fst

/-- The name of a member. -/
structure Key where
  /-- The letters of the name. -/
  name : List Letter
  /-- The white space before the colon. -/
  gap : Gap

/-- The mark between two members or two items. -/
abbrev comma : CodePoint := ','

/-- A string as it is written. -/
def quoted (letters : List Letter) : Text :=
  enclosed stringMark stringMark (chars letters)

namespace Key

/-- The key as it is written, with its colon. -/
def text (k : Key) : Text :=
  quoted k.name ++ k.gap.text ++ [keyMark]

/-- The key as it is written without marks: its characters without the blanks at their end. -/
def bare (k : Key) : Text :=
  Text.trimEnd (chars k.name) ++ [keyMark]

end Key

mutual

/-- A value. -/
inductive Tree where
  /-- A word. -/
  | word (w : Word)
  /-- A number. -/
  | number (n : Number)
  /-- A string. -/
  | string (letters : List Letter)
  /-- An object without members. -/
  | emptyObject (gap : Gap)
  /-- An object. -/
  | object (gap : Gap) (members : Members)
  /-- An array without items. -/
  | emptyArray (gap : Gap)
  /-- An array. -/
  | array (gap : Gap) (items : Items)

/-- A member of an object, with the white space on both sides of its value. -/
inductive Member where
  | mk (key : Key) (before : Gap) (value : Tree) (after : Gap)

/-- The members of an object, one at least. -/
inductive Members where
  /-- The last one. -/
  | last (m : Member)
  /-- One with a comma behind it. -/
  | next (m : Member) (gap : Gap) (rest : Members)

/-- The items of an array, one at least. -/
inductive Items where
  /-- The last one. -/
  | last (value : Tree) (after : Gap)
  /-- One with a comma behind it. -/
  | next (value : Tree) (after gap : Gap) (rest : Items)

end

section

variable (write : Key → Text)

mutual

/-- The text of a value, given how keys are written. -/
def Tree.textWith : Tree → Text
  | .word w => w.text
  | .number n => n.text
  | .string letters => quoted letters
  | .emptyObject gap => enclosed '{' '}' gap.text
  | .object gap members => enclosed '{' '}' (gap.text ++ members.textWith)
  | .emptyArray gap => enclosed '[' ']' gap.text
  | .array gap items => enclosed '[' ']' (gap.text ++ items.textWith)

/-- The text of a member, given how keys are written. -/
def Member.textWith : Member → Text
  | .mk key before value after => write key ++ before.text ++ value.textWith ++ after.text

/-- The text of members, given how keys are written. -/
def Members.textWith : Members → Text
  | .last m => m.textWith
  | .next m gap rest => m.textWith ++ comma :: gap.text ++ rest.textWith

/-- The text of items, given how keys are written. -/
def Items.textWith : Items → Text
  | .last value after => value.textWith ++ after.text
  | .next value after gap rest =>
    value.textWith ++ after.text ++ comma :: gap.text ++ rest.textWith

end

end

mutual

/-- The keys of a value at every depth. -/
def Tree.keys : Tree → List Key
  | .object _ members => members.keys
  | .array _ items => items.keys
  | _ => []

/-- The keys of a member at every depth. -/
def Member.keys : Member → List Key
  | .mk key _ value _ => key :: value.keys

/-- The keys of members at every depth. -/
def Members.keys : Members → List Key
  | .last m => m.keys
  | .next m _ rest => m.keys ++ rest.keys

/-- The keys of items at every depth. -/
def Items.keys : Items → List Key
  | .last value _ => value.keys
  | .next value _ _ rest => value.keys ++ rest.keys

end

/-- A JSON text. -/
structure Document where
  /-- The white space before the value. -/
  before : Gap
  /-- The value. -/
  value : Tree
  /-- The white space behind the value. -/
  after : Gap

namespace Document

/-- The text of a document, given how keys are written. -/
def textWith (write : Key → Text) (d : Document) : Text :=
  d.before.text ++ d.value.textWith write ++ d.after.text

/-- The text of a document. -/
def text (d : Document) : Text :=
  d.textWith Key.text

/-- The text of a document with bare keys, and all else as it is written. -/
def bare (d : Document) : Text :=
  d.textWith Key.bare

/-- The keys of a document at every depth. -/
def keys (d : Document) : List Key :=
  d.value.keys

end Document

end Json

end CallSnippets
