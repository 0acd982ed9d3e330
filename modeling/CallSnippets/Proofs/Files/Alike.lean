import CallSnippets.Proofs.Files.Store

/-!
# Trees that differ in the bytes of files

Where a path leads, whether something is there, and whether a file can be written is told from what kinds
of things stand in a tree, and not from what is in its files. So a step that does not read files goes the
same way in two trees that differ in the bytes of files only. It gives the same answer in both, and the
trees that it leaves differ nowhere but where the two differed before.

## Main definitions

* `Alike`: Two trees differ in the bytes of files only, and at certain places only.
* `EndAlike`: Two walks end in the same way.
* `Blind`: A step does not go by the bytes of files.

## Theorems

* `Alike.put`: The same thing put at the same place leaves trees alike.
* `Alike.follow`: Where paths lead in trees that are alike.
* `Blind.bind`: Steps in a row.
* `blind_storeText`: Storing a text does not go by the bytes of files.
-/

namespace CallSnippets

namespace FileTree

variable {differ : Place → Prop} {t t' : FileTree}

/-- Two trees differ in the bytes of files only, and at certain places only. -/
structure Alike (differ : Place → Prop) (t t' : FileTree) : Prop where
  /-- Paths start at the same place. -/
  workingDirectory : t'.workingDirectory = t.workingDirectory
  /-- The same stands at a place, or files that may differ there. -/
  node : ∀ place, t'.node? place = t.node? place ∨
    (differ place ∧ ∃ bytes bytes', t.node? place = some (.file bytes) ∧
      t'.node? place = some (.file bytes'))

theorem Alike.kindsKept (h : Alike differ t t') : KindsKept t t' := by
  refine ⟨h.workingDirectory, fun place node hnode => ?_⟩
  rcases h.node place with hsame | ⟨_, bytes, bytes', hold, hnew⟩
  · exact ⟨node, hsame.trans hnode, rfl⟩
  · rw [hold] at hnode
    cases hnode
    exact ⟨.file bytes', hnew, rfl⟩

/-- The same thing put at the same place leaves trees alike. -/
theorem Alike.put (h : Alike differ t t') (place : Place) (node : FileNode) :
    Alike differ (t.put place node) (t'.put place node) := by
  refine ⟨h.workingDirectory, fun other => ?_⟩
  by_cases hother : other = place
  · -- Both trees now hold the same here, unless the place is above the directory that paths start from.
    left
    rw [hother, node?, node?, FileTree.put, FileTree.put, List.lookup_cons, List.lookup_cons,
      beq_self_eq_true, h.workingDirectory]
  · rw [node?_put_ne hother, node?_put_ne hother]
    exact h.node other

/-- Other bytes in a file make no other difference. -/
theorem alike_put {place : Place} {old : ByteArray} (h : t.node? place = some (.file old)) (bytes : ByteArray) :
    Alike (· = place) t (t.put place (.file bytes)) := by
  refine ⟨rfl, fun other => ?_⟩
  by_cases hother : other = place
  · rw [hother]
    refine .inr ⟨rfl, old, bytes, h, node?_put_self ?_⟩
    rw [h]
    exact nofun
  · exact .inl (node?_put_ne hother)

/-! ## Where paths lead -/

/-- Two walks end in the same way: they fail alike, or lead to the same place, where nothing is, or a
    directory, or files that may differ. -/
inductive EndAlike : Except FileError Target → Except FileError Target → Prop where
  /-- They fail. -/
  | failed (e : FileError) : EndAlike (.error e) (.error e)
  /-- Nothing is there. -/
  | free (place : Place) : EndAlike (.ok (.free place)) (.ok (.free place))
  /-- A directory is there. -/
  | directory (place : Place) :
      EndAlike (.ok (.found place .directory)) (.ok (.found place .directory))
  /-- Files are there. -/
  | file (place : Place) (bytes bytes' : ByteArray) :
      EndAlike (.ok (.found place (.file bytes))) (.ok (.found place (.file bytes')))

theorem Alike.walk (h : Alike differ t t') (place : Place) (names : List Text) :
    EndAlike (t.walk place names) (t'.walk place names) := by
  induction names generalizing place with
  | nil => exact .directory place
  | cons name rest ih =>
      rcases name_cases name with hgap | rfl | hdown | ⟨hleads, hne, hlong⟩
      · rw [walk_gap hgap, walk_gap hgap]
        exact ih place
      · rw [walk_up, walk_up]
        exact ih place.tail
      · rw [walk_down hdown, walk_down hdown]
        rcases h.node (Text.known name :: place) with hsame | ⟨_, bytes, bytes', hold, hnew⟩
        · rw [hsame]
          cases t.node? (Text.known name :: place) with
          | none => cases rest with
            | nil => exact .free _
            | cons _ _ => exact .failed _
          | some node => cases node with
            | directory => exact ih (Text.known name :: place)
            | file bytes => cases rest with
              | nil => exact .file _ bytes bytes
              | cons _ _ => exact .failed _
        · -- Where files differ a walk ends, and it can only end with the last name.
          rw [hold, hnew]
          cases rest with
          | nil => exact .file _ bytes bytes'
          | cons _ _ => exact .failed _
      · rw [walk_long hleads hne hlong, walk_long hleads hne hlong]
        exact .failed _

/-- Where paths lead in trees that are alike. -/
theorem Alike.follow (h : Alike differ t t') (path : Text) :
    EndAlike (t.follow path) (t'.follow path) := by
  rw [follow_text, follow_text, h.kindsKept.origin]
  -- What is wrong with the text of a path is wrong with it in either tree.
  cases pathFault? path with
  | some e => exact .failed e
  | none => exact h.walk _ _

/-- The same is seen at a path. -/
theorem Alike.look (h : Alike differ t t') (path : Text) : t'.look path = t.look path := by
  have hend := h.follow path
  rw [FileTree.look, FileTree.look]
  generalize t.follow path = first at hend
  generalize t'.follow path = second at hend
  cases hend <;> rfl

/-! ## Steps -/

/-- A step does not go by the bytes of files: it gives the same answer in trees that are alike, and leaves
    them alike. -/
def Blind {α : Type} (x : StateM FileTree α) : Prop :=
  ∀ differ t t', Alike differ t t' → (x t').1 = (x t).1 ∧ Alike differ (x t).2 (x t').2

theorem blind_pure {α : Type} (a : α) : Blind (pure a) := fun _ _ _ h => ⟨rfl, h⟩

/-- Steps in a row. -/
theorem Blind.bind {α β : Type} {x : StateM FileTree α} {f : α → StateM FileTree β} (h : Blind x)
    (hf : ∀ a, Blind (f a)) : Blind (x >>= f) := by
  intro differ t t' halike
  rcases h differ t t' halike with ⟨hanswer, hleft⟩
  rw [run_bind, run_bind, hanswer]
  exact hf _ differ _ _ hleft

theorem blind_look (path : Text) : Blind (FileSystem.look path) := fun _ _ _ h => ⟨h.look path, h⟩

theorem blind_writeFile (path : Text) (bytes : ByteArray) : Blind (FileSystem.writeFile path bytes) := by
  intro differ t t' h
  have hend := h.follow path
  rw [run_writeFile, run_writeFile, write, write]
  generalize t.follow path = first at hend
  generalize t'.follow path = second at hend
  cases hend with
  | failed e => exact ⟨rfl, h⟩
  | free place => exact ⟨rfl, h.put place _⟩
  | directory place => exact ⟨rfl, h⟩
  | file place old old' => exact ⟨rfl, h.put place _⟩

theorem blind_createDirectory (path : Text) : Blind (FileSystem.createDirectory path) := by
  intro differ t t' h
  have hend := h.follow path
  rw [run_createDirectory, run_createDirectory, create, create]
  generalize t.follow path = first at hend
  generalize t'.follow path = second at hend
  cases hend with
  | failed e => exact ⟨rfl, h⟩
  | free place => exact ⟨rfl, h.put place _⟩
  | directory place => exact ⟨rfl, h⟩
  | file place old old' => exact ⟨rfl, h⟩

theorem blind_isPresent (p : Path) : Blind (isPresent p) :=
  (blind_look p.text).bind fun _ => blind_pure _

theorem blind_unlessDirectory (p : Path) (e : FileError) : Blind (unlessDirectory p e) := by
  cases e with
  | nullCharacter => exact blind_pure _
  | unencodable => exact blind_pure _
  | system e =>
      refine Blind.bind ((blind_look p.text).bind fun _ => blind_pure _) fun found => ?_
      cases found with
      | error e => exact blind_pure _
      | ok found => cases found <;> exact blind_pure _

theorem blind_makeDirectory (p : Path) : Blind (makeDirectory p) := by
  refine (blind_createDirectory p.text).bind fun answer => ?_
  split
  · exact blind_pure _
  · exact blind_pure _
  · exact blind_unlessDirectory p _

theorem blind_makeAbove (start : PathStart) (names : List Text) : Blind (makeAbove start names) := by
  induction names with
  | nil => exact blind_makeDirectory _
  | cons name above ih =>
      refine (blind_makeDirectory _).bind fun answer => ?_
      split
      · refine ih.bind fun done => ?_
        cases done with
        | ok _ => exact blind_makeDirectory _
        | error e => exact blind_pure _
      · exact blind_pure _

theorem blind_writeText (p : Path) (s : Text) : Blind (writeText p s) := by
  rw [writeText]
  split
  · exact blind_writeFile _ _
  · refine (blind_writeFile _ _).bind fun answer => ?_
    cases answer <;> exact blind_pure _

/-- Storing a text does not go by the bytes of files. -/
theorem blind_storeText (p : Path) (s : Text) : Blind (storeText p s) := by
  refine (blind_makeAbove _ _).bind fun answer => ?_
  cases answer with
  | ok _ => exact blind_writeText p s
  | error e => exact blind_pure _

end FileTree

end CallSnippets
