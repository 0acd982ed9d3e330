import CallSnippets.Text.Encoding

/-!
# Names of files

A file system tells names by their bytes. A character in a name stands for its bytes in UTF-8. A name may
also hold bytes that are no UTF-8, and a text has the second halves of pairs for them: those from U+DC80 to
U+DCFF stand for the bytes from 80 to FF. Any other half stands for no byte, so a text that holds one is no
name.

One name can thus be written in more than one way, for halves may stand for the bytes of a character. The
file system hands a name back in one way only, with a character wherever the bytes are those of one. This
is the text under which a name is known.

Where a name is only shown, one mark stands for each broken character instead: for a byte that no character
starts with, or for the first bytes of a character as far as they go.

## Main definitions

* `CodePoint.fileBytes?`, `Text.fileBytes?`: The bytes of a name.
* `Text.decodeWith`: The text that bytes are, given what stands for those that are no UTF-8.
* `Text.ofFileBytes`, `Text.known`: The text under which a name is known.
* `Text.readable`: The text in which a name is shown.
-/

namespace CallSnippets

namespace CodePoint

/-- The half that stands for a byte in a name. -/
def ofByte (b : UInt8) : CodePoint :=
  half ⟨0x400 + b.toNat, Nat.lt_trans (Nat.add_lt_add_left b.toNat_lt 0x400) (by decide)⟩

/-- The bytes of a code point in a name. -/
def fileBytes? : CodePoint → Option (List UInt8)
  | char c => some (String.utf8EncodeChar c)
  | half n => if 0x480 ≤ n.val ∧ n.val < 0x500 then some [UInt8.ofNat (n.val - 0x400)] else none

end CodePoint

namespace Text

/-- The bytes of a name, if it is one. -/
def fileBytes? : Text → Option (List UInt8)
  | [] => some []
  | c :: rest =>
    match c.fileBytes?, fileBytes? rest with
    | some bytes, some more => some (bytes ++ more)
    | _, _ => none

/-- The character that bytes start with. It has four bytes at most. -/
def leadingChar? (bytes : List UInt8) : Option Char :=
  (bytes.take 4).toByteArray.utf8DecodeChar? 0

/-- The text that bytes are, where some bytes at the start are passed over. Where no character starts, it is
    given what stands there, and how many of the bytes behind the first one it stands for as well. -/
def decodeWith (broken : UInt8 → List UInt8 → CodePoint × Nat) : Nat → List UInt8 → Text
  | _, [] => []
  | passed + 1, _ :: rest => decodeWith broken passed rest
  | 0, b :: rest =>
    match leadingChar? (b :: rest) with
    | some c => .char c :: decodeWith broken (c.utf8Size - 1) rest
    | none => (broken b rest).1 :: decodeWith broken (broken b rest).2 rest

/-- The name that bytes are: a half stands for each byte that is no UTF-8. -/
def ofFileBytes (bytes : List UInt8) : Text :=
  decodeWith (fun b _ => (.ofByte b, 0)) 0 bytes

/-- The text under which a name is known. -/
def known (name : Text) : Text :=
  match fileBytes? name with
  | some bytes => ofFileBytes bytes
  | none => name

/-- The byte goes on with a character. -/
def isContinuation (b : UInt8) : Bool :=
  0x80 ≤ b && b ≤ 0xBF

/-- How many bytes have to follow a byte that a character starts with. -/
def followers (b : UInt8) : Nat :=
  if 0xC2 ≤ b && b ≤ 0xDF then 1
  else if 0xE0 ≤ b && b ≤ 0xEF then 2
  else if 0xF0 ≤ b && b ≤ 0xF4 then 3
  else 0

/-- The second byte of a character may follow the first one. Some first bytes leave it less choice: it must
    not make a longer form of a character than is needed, nor a half, nor a number beyond the last one. -/
def mayFollow (first second : UInt8) : Bool :=
  isContinuation second &&
    (first ≠ 0xE0 || 0xA0 ≤ second) && (first ≠ 0xED || second ≤ 0x9F) &&
    (first ≠ 0xF0 || 0x90 ≤ second) && (first ≠ 0xF4 || second ≤ 0x8F)

/-- How far a broken character goes on behind its first byte. -/
def brokenLength (first : UInt8) : List UInt8 → Nat
  | [] => 0
  | second :: rest =>
    if followers first ≠ 0 && mayFollow first second then
      1 + ((rest.take (followers first - 1)).takeWhile isContinuation).length
    else 0

/-- The text in which a name is shown. -/
def readable (name : Text) : Text :=
  match fileBytes? name with
  | some bytes => decodeWith (fun b rest => (replacementMark, brokenLength b rest)) 0 bytes
  | none => name

end Text

end CallSnippets
