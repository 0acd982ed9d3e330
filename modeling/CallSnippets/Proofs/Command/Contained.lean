import CallSnippets.Proofs.Command.Batch

/-!
# Where the files of a run are

The name of a request may hold strokes and dots, and is not looked at before a file is named for it. So
the path of the file may lead up, and out of the directory that is written below. What a run changes can
always be told: directories are made where a part of such a path leads and nothing stands, and files are
written where a whole one leads.

If no name leads further up than it has led down, all of this is where it belongs: each file is below the
directory for its language, and a directory that is made is at or below the one to write to, or is one
that the path to that was missing.

## Main definitions

* `staysBelow`: Names lead no further up than they have led down.
* `BatchCall.StaysBelow`: The names of all items that did not fail do so.
* `BatchPlaces`: Everything that is known of where a run changes the tree.

## Theorems

* `suffix_destination`: Names that stay below lead to places below.
* `BatchCall.placeOf_file`: Where the file for an item is.
* `BatchCall.above_file`: Where the directories above it are.
* `runOn_places`: Where runs change the tree.
* `runOn_escaping`: A run that writes a file beside the directory to write to.
-/

namespace CallSnippets

open FileTree

variable {t : FileTree} {place base : Place} {names : List Text} {item : BatchItem} {env : Environment}
  {words : List Text}

/-! ## Names that stay below -/

/-- Names lead no further up than they have led down, where as many names down have been led before. -/
def staysBelow : Nat → List Text → Bool
  | _, [] => true
  | depth, name :: rest =>
    if name = ".." then 0 < depth && staysBelow (depth - 1) rest else staysBelow (depth + 1) rest

theorem staysBelow_of_straight (h : Text.ofString ".." ∉ names) (depth : Nat) :
    staysBelow depth names = true := by
  induction names generalizing depth with
  | nil => rfl
  | cons name rest ih =>
      rw [staysBelow, if_neg (Ne.symm (List.ne_of_not_mem_cons h))]
      exact ih (List.not_mem_of_not_mem_cons h) (depth + 1)

/-- Names that stay below lead to places below, and so do the first of them. -/
theorem suffix_destination (extra : Place) {a : List Text}
    (hnames : ∀ name ∈ names, Path.leads name = true)
    (hbelow : staysBelow extra.length names = true) (ha : a <+: names) :
    base <:+ destination (extra ++ base) a := by
  induction names generalizing extra a with
  | nil =>
      rw [List.prefix_nil.mp ha]
      exact List.suffix_append extra base
  | cons name rest ih =>
      rcases List.prefix_cons_iff.mp ha with rfl | ⟨a, rfl, hrest⟩
      · exact List.suffix_append extra base
      rcases List.forall_mem_cons.mp hnames with ⟨hleads, hnames⟩
      rw [destination_cons, onward, if_pos hleads]
      rw [staysBelow] at hbelow
      split
      · -- Up: there is a name to take back.
        rename_i hup
        rw [if_pos hup, Bool.and_eq_true] at hbelow
        cases extra with
        | nil => cases hbelow.1
        | cons last others => exact ih others hnames hbelow.2 hrest
      · rename_i hdown
        rw [if_neg hdown] at hbelow
        exact ih (Text.known name :: extra) hnames hbelow hrest

/-- The last piece of a text that ends with a text without the separator ends with that. -/
theorem splitOn_ending {c : CodePoint} {a b : Text} (h : c ∉ b) :
    ∃ lead piece, Text.splitOn c (a ++ b) = lead ++ [piece ++ b] := by
  induction a with
  | nil => exact ⟨[], [], splitOn_self h⟩
  | cons d rest ih =>
      rcases ih with ⟨lead, piece, hsplit⟩
      by_cases hd : d = c
      · refine ⟨[] :: lead, piece, ?_⟩
        rw [hd, List.cons_append, splitOn_separator, hsplit, List.cons_append]
      · cases lead with
        | nil => exact ⟨[], d :: piece, splitOn_cons_ne hd hsplit⟩
        | cons first others => exact ⟨(d :: first) :: others, piece, splitOn_cons_ne hd hsplit⟩

/-- A name that is longer than the two that do not lead down leads down. -/
theorem leads_of_length {name : Text} (h : 3 ≤ name.length) : Path.leads name = true ∧ name ≠ ".." := by
  have hne {other : Text} (hother : other.length < 3) : name ≠ other := by
    rintro rfl
    exact absurd h (Nat.not_le.mpr hother)
  have hnil : name ≠ [] := hne (by decide)
  rw [Path.leads, Bool.and_eq_true]
  exact ⟨⟨by simpa using hnil, decide_eq_true (hne (by decide))⟩, hne (by decide)⟩

/-- The last name in the file name of an item leads down. -/
theorem names_ending (name : Text) : ∃ lead last,
    (Path.ofText (name ++ Text.ofString "." ++ javaScript.fileExtension)).names = lead ++ [last] ∧
      Path.leads last = true ∧ last ≠ ".." := by
  have hending : CodePoint.char '/' ∉ Text.ofString "." ++ javaScript.fileExtension := by decide
  have hlength : (Text.ofString "." ++ javaScript.fileExtension).length = 3 := by decide
  rcases splitOn_ending (a := name) hending with ⟨lead, piece, hsplit⟩
  -- The last piece ends with a dot and two letters.
  have hlast : 3 ≤ (piece ++ (Text.ofString "." ++ javaScript.fileExtension)).length := by
    rw [List.length_append, hlength]
    exact Nat.le_add_left 3 _
  rcases leads_of_length hlast with ⟨hleads, hdown⟩
  refine ⟨lead.filter Path.leads, _, ?_, hleads, hdown⟩
  rw [Path.ofText, List.append_assoc, hsplit, List.filter_append, List.filter_cons_of_pos hleads,
    List.filter_nil]

/-! ## Files and directories -/

/-- The names that lead from the directory for the language to the file for an item. -/
def BatchItem.namesBelow (item : BatchItem) : List Text :=
  (Path.ofText (item.name ++ "." ++ item.fileExtension)).names

/-- The names of all items that did not fail lead no further up than they have led down. -/
def BatchCall.StaysBelow (call : BatchCall env words t) : Prop :=
  ∀ item ∈ call.items, item.isFailed = false → staysBelow 0 item.namesBelow = true

theorem leads_namesBelow (item : BatchItem) : ∀ name ∈ item.namesBelow, Path.leads name = true :=
  fun name hname => (Path.isProper_ofText _ name hname).1

/-- Where names lead behind the directory for the language. -/
theorem BatchCall.destination_language (call : BatchCall env words t) (h : item ∈ call.items)
    (names : List Text) :
    destination (t.origin call.output.start) (call.output.names ++ Text.lower item.language :: names) =
      destination (Text.lower item.language :: t.placeOf call.output) names := by
  rcases call.mem_items h with ⟨r, _, rfl⟩
  have hlower : Text.lower (BatchItem.of r.1 r.2 javaScript).language = Text.ofString "javascript" :=
    lower_javaScript
  have hdown : onward (t.placeOf call.output) (Text.ofString "javascript") =
      Text.ofString "javascript" :: t.placeOf call.output := by
    rw [onward, if_pos (by decide), if_neg (by decide), Text.known_of_isWhole (isWhole_ofString _)]
  rw [hlower, destination_append, destination_cons, ← hdown]
  rfl

/-- The file for an item is below the directory for its language. -/
theorem BatchCall.placeOf_file (call : BatchCall env words t) (h : item ∈ call.items)
    (hbelow : staysBelow 0 item.namesBelow = true) :
    (Text.lower item.language :: t.placeOf call.output) <:+ (t.placeOf (call.pathOf item)).tail := by
  have hplace : t.placeOf (call.pathOf item) =
      destination (Text.lower item.language :: t.placeOf call.output) item.namesBelow := by
    rw [placeOf, call.pathOf_eq h, ← call.destination_language h]
    rfl
  have hending : ∃ lead last, item.namesBelow = lead ++ [last] ∧ Path.leads last = true ∧ last ≠ ".." := by
    rcases call.mem_items h with ⟨r, _, rfl⟩
    exact names_ending r.1
  rcases hending with ⟨lead, last, hnames, hleads, hne⟩
  have hlead : lead <+: item.namesBelow := by
    rw [hnames]
    exact List.prefix_append _ _
  rw [hplace, hnames, destination_append, destination_cons, onward, if_pos hleads, if_neg hne]
  exact suffix_destination [] (leads_namesBelow item) hbelow hlead

/-- A directory above the file for an item is at or below the one to write to, or a part of the path to
    that leads to it. -/
theorem BatchCall.above_file (call : BatchCall env words t) (h : item ∈ call.items)
    (hbelow : staysBelow 0 item.namesBelow = true) (hplace : t.Above (call.pathOf item).parent place) :
    t.placeOf call.output <:+ place ∨ t.Above call.output place := by
  rcases hplace with ⟨names, hnames, rfl⟩
  have hall : names <+: call.output.names ++ Text.lower item.language :: item.namesBelow := by
    have hparent : (call.pathOf item).parent.names <+: (call.pathOf item).names :=
      List.dropLast_prefix _
    rw [call.pathOf_eq h] at hparent hnames
    exact hnames.trans hparent
  have hstart : (call.pathOf item).parent.start = call.output.start := by
    rw [call.pathOf_eq h]
    rfl
  rw [hstart]
  -- The part of the path ends within the path of the directory to write to, or goes on below it.
  rcases List.prefix_or_prefix_of_prefix hall (List.prefix_append _ _) with habove | ⟨rest, rfl⟩
  · exact .inr ⟨names, habove, rfl⟩
  · left
    rcases List.prefix_cons_iff.mp ((List.prefix_append_right_inj _).mp hall) with rfl | ⟨a, rfl, ha⟩
    · rw [List.append_nil]
      exact List.suffix_refl _
    · rw [call.destination_language h]
      exact (List.suffix_cons _ _).trans
        (suffix_destination [] (leads_namesBelow item) hbelow ha)

/-! ## Runs -/

/-- Everything that is known of where a run changes the tree. -/
structure BatchPlaces (env : Environment) (words : List Text) (t : FileTree) : Prop where
  /-- A run of the command that is no call changes nothing. -/
  uncalled : ∀ _ : BatchWords words t, (BatchCall env words t → False) → (runOn env words t).2 = t
  /-- Directories are made where a part of a path leads and nothing stands, and files are written where a
      whole path leads. -/
  changed : ∀ call : BatchCall env words t,
    Changes
      (fun place => ∃ item ∈ call.items, item.isFailed = false ∧ t.Above (call.pathOf item).parent place)
      (fun place => ∃ item ∈ call.items, item.isFailed = false ∧ place = t.placeOf (call.pathOf item))
      t (runOn env words t).2
  /-- If all names stay below, directories are made at or below the one to write to or where they were
      missing above it, and each file that is written is below the directory for its language. -/
  contained : ∀ call : BatchCall env words t, call.StaysBelow →
    Changes (fun place => t.placeOf call.output <:+ place ∨ t.Above call.output place)
      (fun place => ∃ item ∈ call.items, item.isFailed = false ∧ place = t.placeOf (call.pathOf item) ∧
        (Text.lower item.language :: t.placeOf call.output) <:+ place.tail)
      t (runOn env words t).2

/-- Where runs change the tree. -/
theorem runOn_places (env : Environment) (words : List Text) (t : FileTree) :
    BatchPlaces env words t := by
  constructor
  case uncalled => exact fun b h => b.run_tree h
  case changed =>
    intro call
    refine call.storedAll.changes call.isProper_output ?_ ?_
    · exact fun item hitem snippet hresult place hplace => ⟨item, hitem, isFailed_ok hresult, hplace⟩
    · exact fun item hitem snippet hresult => ⟨item, hitem, isFailed_ok hresult, rfl⟩
  case contained =>
    intro call hbelow
    refine call.storedAll.changes call.isProper_output ?_ ?_
    · intro item hitem snippet hresult place hplace
      exact call.above_file hitem (hbelow item hitem (isFailed_ok hresult)) hplace
    · intro item hitem snippet hresult
      have hmade := isFailed_ok hresult
      exact ⟨item, hitem, hmade, rfl, call.placeOf_file hitem (hbelow item hitem hmade)⟩

/-- All that the mixed run makes and writes is below the directory for its language. -/
theorem runOn_places_mixed :
    Changes
      (fun place => mixedTree.placeOf mixedCall.val.output <:+ place ∨
        mixedTree.Above mixedCall.val.output place)
      (fun place => ∃ item ∈ mixedCall.val.items, item.isFailed = false ∧
        place = mixedTree.placeOf (mixedCall.val.pathOf item) ∧
        (Text.lower item.language :: mixedTree.placeOf mixedCall.val.output) <:+ place.tail)
      mixedTree (runOn [] mixedWords mixedTree).2 := by
  rcases mixedCall with ⟨call, _, _, _, _, hstraight⟩
  refine (runOn_places [] mixedWords mixedTree).contained call fun item hitem _ => ?_
  refine staysBelow_of_straight (fun hup => hstraight item hitem ?_) 0
  rw [call.pathOf_eq hitem]
  exact List.mem_append_right _ (List.mem_cons_of_mem _ hup)

/-- A request whose name leads up, past the directory for its language and the one to write to. -/
def escapingTree : FileTree :=
  filesTree [("d.yaml", "requests:\n- \x7bid: ../../evil, method: GET, path: /me\x7d\n")]

/-- A run that goes by the settings that there are without any. -/
def escapingWords : List Text :=
  ["batch", "d.yaml"]

/-- The file beside the directory to write to. -/
def escapedFile : Path := Path.ofText "evil.js"

/-- The call that the run is: it writes the file, which is not at or below the directory to write to. -/
def escapingCall : { call : BatchCall [] escapingWords escapingTree //
    escapingTree.look escapedFile.text = .error (.system .noSuchFile) ∧
    call.stored.2.look escapedFile.text = .ok .file ∧
    ¬escapingTree.placeOf call.output <:+ escapingTree.placeOf escapedFile } :=
  ⟨(batchCall? [] escapingWords escapingTree).get (by decide +kernel), by
    refine ⟨rfl, eq_ok_of_toOption (by decide +kernel), by decide +kernel⟩⟩

/-- A run that writes a file beside the directory to write to. -/
theorem runOn_escaping : escapingTree.look escapedFile.text = .error (.system .noSuchFile) ∧
    (runOn [] escapingWords escapingTree).2.look escapedFile.text = .ok .file ∧
    ¬escapingTree.placeOf escapingCall.val.output <:+ escapingTree.placeOf escapedFile := by
  rcases escapingCall with ⟨call, hbefore, hafter, hplace⟩
  rw [call.run_eq]
  exact ⟨hbefore, hafter, hplace⟩

end CallSnippets
