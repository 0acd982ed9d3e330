import CallSnippets.Fault
import CallSnippets.Text.Quoted

/-!
# Problems with templates

Why a template cannot be filled in: its text is not well formed, a field asks for an argument that
is not there, or the form it asks for does not suit the argument.

## Main definitions

* `Template.Problem`: The causes.
* `Template.Problem.fault`: The kind and the words of a cause.
-/

namespace CallSnippets

namespace Template

/-- The types of the arguments of a template, as problems name them. -/
inductive ArgumentType where
  /-- A text. -/
  | text
  /-- A whole number. -/
  | int
  deriving DecidableEq, Repr

/-- The name of a type in messages. -/
def ArgumentType.name : ArgumentType → Text
  | .text => "str"
  | .int => "int"

/-- Why a template cannot be filled in. -/
inductive Problem where
  /-- A closing brace belongs to no field. -/
  | strayClose
  /-- An opening brace stands at the very end. -/
  | strayOpen
  /-- A field has no end. -/
  | unclosedField
  /-- An opening brace stands in the name of a field. -/
  | openInName
  /-- The template ends where the letter of a conversion was expected. -/
  | noConversion
  /-- Something else than a colon follows the letter of a conversion. -/
  | afterConversion
  /-- The form of a field has no end. -/
  | unclosedForm
  /-- The conversion is not known. -/
  | unknownConversion (letter : CodePoint)
  /-- Fields are nested in forms more than once. -/
  | tooDeep
  /-- A numbered field follows fields without number. -/
  | numberedAfterPlain
  /-- A field without number follows numbered fields. -/
  | plainAfterNumbered
  /-- A number in the template is beyond the range of positions. -/
  | tooManyDigits
  /-- A position in brackets has no closing bracket. -/
  | unclosedPosition
  /-- A point or a pair of brackets has nothing to look up. -/
  | emptyLookup
  /-- Something else than a further lookup follows a closing bracket. -/
  | afterPosition
  /-- There is no argument with this number. -/
  | noArgument (number : Nat)
  /-- There is no argument with this name. -/
  | noName (name : Text)
  /-- The argument has no such attribute. -/
  | noAttribute (type : ArgumentType) (name : Text)
  /-- The position is beyond the end of the text. -/
  | beyondEnd
  /-- A position in a text is no number. -/
  | positionNoNumber
  /-- A number has no positions. -/
  | noPositions
  /-- The form is not one of those that fields may have. -/
  | badForm (form : Text) (type : ArgumentType)
  /-- The form asks for both signs between groups of digits. -/
  | bothSeparators
  /-- The form asks for groups of digits that its letter does not allow. -/
  | separatorWith (separator : CodePoint) (letter : CodePoint)
  /-- A point in a form has no count of digits. -/
  | noPrecision
  /-- The letter of a form does not suit the type. -/
  | unknownLetter (letter : CodePoint) (type : ArgumentType)
  /-- A form for texts asks for a blank as sign. -/
  | blankInText
  /-- A form for texts asks for a sign. -/
  | signInText
  /-- A form for texts asks for a positive zero. -/
  | positiveZeroInText
  /-- A form for texts asks for the alternate form. -/
  | alternateInText
  /-- A form for texts asks for padding behind the sign. -/
  | signPaddingInText
  /-- A form for whole numbers asks for a count of digits. -/
  | precisionInInt
  /-- A form for whole numbers asks for a positive zero. -/
  | positiveZeroInInt
  /-- A form for the character with a code point asks for a sign. -/
  | signInChar
  /-- A form for the character with a code point asks for the alternate form. -/
  | alternateInChar
  /-- The number is not the code point of a character. -/
  | noCodePoint
  /-- The number does not fit a machine word. -/
  | beyondWord
  /-- The number is too large for a number with a fraction. -/
  | beyondFloat
  /-- The count of digits after the point is too large. -/
  | precisionTooLarge
  /-- The filled text would be too large to hold. -/
  | tooLarge
  /-- The number has too many digits to be written out. -/
  | tooLong
  deriving DecidableEq, Repr

/-- How a message shows the letter of a conversion or of a form: as it is if it lies between the
    blank and the given end of the visible characters. -/
def letterText (stop : Nat) (c : CodePoint) : Text :=
  if 32 < c.toNat ∧ c.toNat < stop then [c]
  else "\\x" ++ basedText 16 c.toNat

/-- A fault of a value with the given words. -/
def valueFault (message : Text) : Fault :=
  .value message

/-- The kind and the words of a cause. -/
def Problem.fault : Problem → Fault
  | strayClose => valueFault "Single '\x7d' encountered in format string"
  | strayOpen => valueFault "Single '\x7b' encountered in format string"
  | unclosedField => valueFault "expected '\x7d' before end of string"
  | openInName => valueFault "unexpected '\x7b' in field name"
  | noConversion => valueFault "end of string while looking for conversion specifier"
  | afterConversion => valueFault "expected ':' after conversion specifier"
  | unclosedForm => valueFault "unmatched '\x7b' in format spec"
  | unknownConversion c => valueFault ("Unknown conversion specifier " ++ letterText 127 c)
  | tooDeep => valueFault "Max string recursion exceeded"
  | numberedAfterPlain =>
    valueFault ("cannot switch from automatic field numbering to manual field specification")
  | plainAfterNumbered =>
    valueFault ("cannot switch from manual field specification to automatic field numbering")
  | tooManyDigits => valueFault "Too many decimal digits in format string"
  | unclosedPosition => valueFault "Missing ']' in format string"
  | emptyLookup => valueFault "Empty attribute in format string"
  | afterPosition => valueFault "Only '.' or '[' may follow ']' in format field specifier"
  | noArgument n =>
    ⟨.badIndex, "Replacement index " ++ natText n ++ " out of range for positional args tuple"⟩
  | noName name => ⟨.missingKey, Text.quoted name⟩
  | noAttribute type name =>
    ⟨.missingAttribute, "'" ++ type.name ++ "' object has no attribute '" ++ name ++ "'"⟩
  | beyondEnd => ⟨.badIndex, "string index out of range"⟩
  | positionNoNumber => .type "string indices must be integers, not 'str'"
  | noPositions => .type "'int' object is not subscriptable"
  | badForm form type =>
    valueFault ("Invalid format specifier '" ++ form ++ "' for object of type '" ++ type.name ++
      "'")
  | bothSeparators => valueFault "Cannot specify both ',' and '_'."
  | separatorWith s c =>
    valueFault ("Cannot specify '" ++ [s] ++ "' with '" ++ letterText 128 c ++ "'.")
  | noPrecision => valueFault "Format specifier missing precision"
  | unknownLetter c type =>
    valueFault ("Unknown format code '" ++ letterText 128 c ++ "' for object of type '" ++
      type.name ++ "'")
  | blankInText => valueFault "Space not allowed in string format specifier"
  | signInText => valueFault "Sign not allowed in string format specifier"
  | positiveZeroInText =>
    valueFault "Negative zero coercion (z) not allowed in string format specifier"
  | alternateInText => valueFault "Alternate form (#) not allowed in string format specifier"
  | signPaddingInText => valueFault "'=' alignment not allowed in string format specifier"
  | precisionInInt => valueFault "Precision not allowed in integer format specifier"
  | positiveZeroInInt =>
    valueFault "Negative zero coercion (z) not allowed in integer format specifier"
  | signInChar => valueFault "Sign not allowed with integer format specifier 'c'"
  | alternateInChar =>
    valueFault "Alternate form (#) not allowed with integer format specifier 'c'"
  | noCodePoint => ⟨.overflow, "%c arg not in range(0x110000)"⟩
  | beyondWord => ⟨.overflow, "Python int too large to convert to C long"⟩
  | beyondFloat => ⟨.overflow, "int too large to convert to float"⟩
  | precisionTooLarge => valueFault "precision too big"
  | tooLarge => ⟨.outOfMemory, []⟩
  | tooLong => .tooManyDigits

end Template

end CallSnippets
