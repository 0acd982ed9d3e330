import CallSnippets.Files.Document
import CallSnippets.Files.Tree

/-!
# Files that hold documents

A file comes to a document in three steps, and what it comes to is told by the step that fails or by the
value that the last one makes. Two failures have a name of their own, because whoever asks for the document
answers for them: the file system does not hand out the file, or the text in it is no document. There are
three more ways to fail, and all of them are faults: the path is none that a file system could be asked for,
the bytes are not UTF-8, or a value that is written in the document does not exist.

## Main definitions

* `DocumentAt`: What a file comes to.

## Theorems

* `readDocument_iff`: Reading a document goes by these rules.
-/

namespace CallSnippets

open FileTree

/-- What the file that a path leads to comes to as a document. -/
inductive DocumentAt (t : FileTree) (p : Path) : Except DocumentFailure Value → Prop where
  /-- It holds a document. -/
  | loaded {bytes : ByteArray} {s : Text} {v : Value} (hread : t.read p.text = .ok bytes)
      (htext : Text.ofBytes? bytes = some s) (h : Yaml.load s = .ok v) : DocumentAt t p (.ok v)
  /-- The file system does not hand it out. -/
  | unreadable {e : SystemError} (h : t.read p.text = .error (.system e)) :
      DocumentAt t p (.error (.unreadable e))
  /-- Its text is no document. -/
  | malformed {bytes : ByteArray} {s : Text} (hread : t.read p.text = .ok bytes)
      (htext : Text.ofBytes? bytes = some s) (h : Yaml.load s = .error .malformed) :
      DocumentAt t p (.error .malformed)
  /-- The file system cannot even be asked for the path. -/
  | unasked {e : FileError} (hread : t.read p.text = .error e) (h : ∀ reason, e ≠ .system reason) :
      DocumentAt t p (.error (.fault (e.fault p.text)))
  /-- Its bytes are not UTF-8. -/
  | undecodable {bytes : ByteArray} (hread : t.read p.text = .ok bytes)
      (h : Text.ofBytes? bytes = none) : DocumentAt t p (.error (.fault .undecodable))
  /-- A value that is written in it does not exist. -/
  | missing {bytes : ByteArray} {s : Text} {f : Fault} (hread : t.read p.text = .ok bytes)
      (htext : Text.ofBytes? bytes = some s) (h : Yaml.load s = .error (.fault f)) :
      DocumentAt t p (.error (.fault f))

variable {t : FileTree} {p : Path} {x : Except DocumentFailure Value}

/-- Every file comes to something. -/
theorem documentAt_readDocument (p : Path) (t : FileTree) :
    DocumentAt t p ((readDocument p : StateM FileTree _) t).1 := by
  change DocumentAt t p (documentOf p.text (t.read p.text))
  cases hread : t.read p.text with
  | error e =>
      cases e with
      | system reason => exact .unreadable hread
      | nullCharacter => exact .unasked hread fun _ h => (by cases h)
      | unencodable => exact .unasked hread fun _ h => (by cases h)
  | ok bytes =>
      rw [documentOf]
      cases htext : Text.ofBytes? bytes with
      | none => exact .undecodable hread htext
      | some s =>
          simp only
          cases hload : Yaml.load s with
          | ok v => exact .loaded hread htext hload
          | error e =>
              cases e with
              | malformed => exact .malformed hread htext hload
              | fault f => exact .missing hread htext hload

/-- Reading a document goes by the rules. -/
theorem readDocument_iff : ((readDocument p : StateM FileTree _) t).1 = x ↔ DocumentAt t p x := by
  constructor
  · rintro rfl
    exact documentAt_readDocument p t
  · intro h
    change documentOf p.text (t.read p.text) = x
    cases h with
    | loaded hread htext hload => simp only [hread, documentOf, htext, hload]
    | unreadable hread => rw [hread, documentOf]
    | malformed hread htext hload => simp only [hread, documentOf, htext, hload]
    | @unasked e hread hreason =>
        rw [hread]
        cases e with
        | system reason => exact absurd rfl (hreason reason)
        | nullCharacter => rfl
        | unencodable => rfl
    | undecodable hread htext => simp only [hread, documentOf, htext]
    | missing hread htext hload => simp only [hread, documentOf, htext, hload]

end CallSnippets
