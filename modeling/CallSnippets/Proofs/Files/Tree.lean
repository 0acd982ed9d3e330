import CallSnippets.Files.Tree
import CallSnippets.Proofs.Files.Name
import CallSnippets.Proofs.Files.Path
import CallSnippets.Proofs.Steps
import Mathlib.Tactic.SplitIfs

/-!
# Walks in trees of files

Where a path leads is given by its rules, each of which takes one name off: a gap leads nowhere, two dots
lead up, a name leads down into a directory, and the last name may also lead to a file or to nothing. The
function that follows paths goes by these rules, so what is proved of walks is proved by induction on
them.

A walk from a place whose directories all stand ends at its destination, which is told from the names
alone. And a walk stays what it is while a tree grows: as long as directories stay directories and files
stay files, what was found is found again, and what led to nothing leads to whatever was put there.

## Main definitions

* `onward`, `destination`: Where names lead, whatever stands there.
* `Walk`: The rules of walks.
* `Anchored`, `Stands`: The directories above a place stand, and a file stands at one.
* `KindsKept`: What stands in a tree also stands in another one.
* `pathFault?`, `FileTree.placeOf`: What is wrong with the text of a path, and where a path leads.
* `filesTree`: A tree of files in one directory.

## Theorems

* `node?_put`: What stands at places once something is put at one.
* `walk_eq_ok`: The function that follows names goes by the rules.
* `Walk.destination`: Where walks end.
* `Walk.grow`, `Walk.fill`: Walks in trees that grow.
* `walk_tooLong`: A name that is too long stays too long.
* `walk_stands`: A file that stands is found on the straight way.
* `follow_eq`: Following a path is a walk from where it starts.
-/

namespace CallSnippets

/-! ## Places -/

/-- Where a name leads from a place, whatever stands there. -/
def onward (place : Place) (name : Text) : Place :=
  if Path.leads name then
    if name = ".." then place.tail else Text.known name :: place
  else place

/-- Where names lead from a place, whatever stands there. -/
def destination (place : Place) (names : List Text) : Place :=
  names.foldl onward place

theorem destination_cons (place : Place) (name : Text) (names : List Text) :
    destination place (name :: names) = destination (onward place name) names := rfl

theorem destination_append (place : Place) (a b : List Text) :
    destination place (a ++ b) = destination (destination place a) b :=
  List.foldl_append

/-- The names lead straight down: none of them leads nowhere or up. -/
def IsStraight (names : List Text) : Prop :=
  ∀ name ∈ names, Path.leads name = true ∧ name ≠ ".."

theorem destination_straight {names : List Text} (h : IsStraight names) (place : Place) :
    destination place names = (names.map Text.known).reverse ++ place := by
  induction names generalizing place with
  | nil => rfl
  | cons name rest ih =>
      rcases List.forall_mem_cons.mp h with ⟨⟨hleads, hne⟩, hrest⟩
      rw [destination_cons, onward, if_pos hleads, if_neg hne, ih hrest, List.map_cons, List.reverse_cons,
        List.append_assoc, List.singleton_append]

namespace FileTree

/-- The place of a target. -/
def Target.place : Target → Place
  | found place _ => place
  | free place => place

/-- What stands at the place of a target. -/
def Target.node? : Target → Option FileNode
  | found _ node => some node
  | free _ => none

variable {t t' : FileTree} {place other : Place} {node : FileNode} {name : Text}
  {names a b : List Text} {target : Target} {bytes : ByteArray} {kind : FileKind}

/-! ## What stands at places -/

theorem lookup_filter_ne {α : Type} {l : List (Place × α)} (h : other ≠ place) :
    (l.filter fun n => n.1 ≠ place).lookup other = l.lookup other := by
  induction l with
  | nil => rfl
  | cons n rest ih =>
      rcases n with ⟨p, x⟩
      by_cases hp : p = place
      · have hother : (other == p) = false := by rw [hp, beq_eq_false_iff_ne]; exact h
        rw [List.filter_cons_of_neg (by simpa using hp), ih, List.lookup_cons, hother]
      · rw [List.filter_cons_of_pos (by simpa using hp), List.lookup_cons, List.lookup_cons, ih]

theorem node?_suffix (h : place <:+ t.workingDirectory) : t.node? place = some .directory := by
  rw [node?, if_pos (List.isSuffixOf_iff_suffix.mpr h)]

theorem node?_put_ne (h : other ≠ place) : (t.put place node).node? other = t.node? other := by
  have hother : (other == place) = false := beq_eq_false_iff_ne.mpr h
  rw [node?, node?, put, List.lookup_cons, hother, lookup_filter_ne h]

/-- What is put at a place stands there, unless a directory did. -/
theorem node?_put_self (h : t.node? place ≠ some .directory) :
    (t.put place node).node? place = some node := by
  have hsuffix : ¬place.isSuffixOf t.workingDirectory = true := fun hs =>
    h (node?_suffix (List.isSuffixOf_iff_suffix.mp hs))
  rw [node?, put, if_neg hsuffix, List.lookup_cons, beq_self_eq_true]

/-- The directory at a place and those above it stand. -/
def Anchored (t : FileTree) (place : Place) : Prop :=
  ∀ above, above <:+ place → t.node? above = some .directory

theorem Anchored.cons (h : t.Anchored place) (hnode : t.node? (name :: place) = some .directory) :
    t.Anchored (name :: place) := by
  intro above habove
  rcases List.suffix_cons_iff.mp habove with rfl | hplace
  · exact hnode
  · exact h above hplace

theorem Anchored.tail (h : t.Anchored place) : t.Anchored place.tail :=
  fun above habove => h above (habove.trans (List.tail_suffix place))

theorem anchored_workingDirectory (t : FileTree) : t.Anchored t.workingDirectory :=
  fun _ habove => node?_suffix habove

theorem anchored_root (t : FileTree) : t.Anchored [] := fun above habove => by
  rw [List.suffix_nil.mp habove]
  exact node?_suffix (List.nil_suffix)

/-- A file stands at a place, and so do the directories above it. -/
def Stands (t : FileTree) (place : Place) (bytes : ByteArray) : Prop :=
  t.node? place = some (.file bytes) ∧ t.Anchored place.tail

/-- What stands in a tree also stands in another one: directories as directories, files as files. -/
structure KindsKept (t t' : FileTree) : Prop where
  /-- Paths start where they did. -/
  workingDirectory : t'.workingDirectory = t.workingDirectory
  /-- What stands is kept. -/
  node : ∀ place node, t.node? place = some node →
    ∃ node', t'.node? place = some node' ∧ node'.kind = node.kind

theorem KindsKept.directory (h : KindsKept t t') (hplace : t.node? place = some .directory) :
    t'.node? place = some .directory := by
  rcases h.node place .directory hplace with ⟨node, hnode, hkind⟩
  cases node with
  | file bytes => cases hkind
  | directory => exact hnode

theorem KindsKept.anchored (h : KindsKept t t') (hplace : t.Anchored place) : t'.Anchored place :=
  fun above habove => h.directory (hplace above habove)

/-! ## Walks -/

/-- A name that leads down: it is none that leads nowhere or up, and not too long. -/
structure LeadsDown (name : Text) : Prop where
  /-- It leads somewhere. -/
  leads : Path.leads name = true
  /-- It does not lead up. -/
  ne : name ≠ ".."
  /-- It is not too long. -/
  short : byteCount name ≤ nameLimit

/-- The rules by which names lead from a place to a target. -/
inductive Walk (t : FileTree) : Place → List Text → Target → Prop where
  /-- No names are left. -/
  | here (place : Place) : Walk t place [] (.found place .directory)
  /-- A name that leads nowhere. -/
  | gap {place : Place} {name : Text} {rest : List Text} {target : Target}
      (hname : Path.leads name = false) (hrest : Walk t place rest target) :
      Walk t place (name :: rest) target
  /-- Two dots lead up. -/
  | up {place : Place} {rest : List Text} {target : Target}
      (hrest : Walk t place.tail rest target) : Walk t place (".." :: rest) target
  /-- A name leads down into a directory. -/
  | down {place : Place} {name : Text} {rest : List Text} {target : Target} (hname : LeadsDown name)
      (hnode : t.node? (Text.known name :: place) = some .directory)
      (hrest : Walk t (Text.known name :: place) rest target) : Walk t place (name :: rest) target
  /-- The last name leads to a file. -/
  | file {place : Place} {name : Text} {bytes : ByteArray} (hname : LeadsDown name)
      (hnode : t.node? (Text.known name :: place) = some (.file bytes)) :
      Walk t place [name] (.found (Text.known name :: place) (.file bytes))
  /-- The last name leads to nothing. -/
  | free {place : Place} {name : Text} (hname : LeadsDown name)
      (hnode : t.node? (Text.known name :: place) = none) :
      Walk t place [name] (.free (Text.known name :: place))

theorem leads_up : Path.leads ".." = true := by decide

theorem walk_gap (h : Path.leads name = false) : t.walk place (name :: names) = t.walk place names := by
  have hgap : (name.isEmpty || decide (name = ".")) = true := by
    rw [Path.leads, Bool.and_eq_false_iff] at h
    simpa using h
  rw [walk, if_pos hgap]

theorem not_gap (h : Path.leads name = true) : ¬(name.isEmpty || decide (name = ".")) = true := by
  rw [Path.leads, Bool.and_eq_true] at h
  simpa using h

theorem walk_up : t.walk place (".." :: names) = t.walk place.tail names := by
  rw [walk, if_neg (not_gap leads_up), if_pos rfl]

theorem walk_down (h : LeadsDown name) : t.walk place (name :: names) =
    match t.node? (Text.known name :: place) with
    | some .directory => t.walk (Text.known name :: place) names
    | some node =>
      if names.isEmpty then .ok (.found (Text.known name :: place) node)
      else .error (.system .notDirectory)
    | none =>
      if names.isEmpty then .ok (.free (Text.known name :: place))
      else .error (.system .noSuchFile) := by
  rewrite [walk, if_neg (not_gap h.leads), if_neg h.ne, if_neg (Nat.not_lt.mpr h.short)]
  rfl

theorem walk_long (hleads : Path.leads name = true) (hne : name ≠ "..")
    (hlong : nameLimit < byteCount name) :
    t.walk place (name :: names) = .error (.system .nameTooLong) := by
  rw [walk, if_neg (not_gap hleads), if_neg hne, if_pos hlong]

/-- The four kinds of names. -/
theorem name_cases (name : Text) : Path.leads name = false ∨ name = ".." ∨ LeadsDown name ∨
    (Path.leads name = true ∧ name ≠ ".." ∧ nameLimit < byteCount name) := by
  by_cases hleads : Path.leads name = true
  · by_cases hup : name = ".."
    · exact .inr (.inl hup)
    · rcases Nat.lt_or_ge nameLimit (byteCount name) with hlong | hshort
      · exact .inr (.inr (.inr ⟨hleads, hup, hlong⟩))
      · exact .inr (.inr (.inl ⟨hleads, hup, hshort⟩))
  · exact .inl (Bool.eq_false_iff.mpr hleads)

theorem walk_of_walk (h : Walk t place names target) : t.walk place names = .ok target := by
  induction h with
  | here place => rfl
  | gap hname _ ih => rw [walk_gap hname, ih]
  | up _ ih => rw [walk_up, ih]
  | down hname hnode _ ih => rw [walk_down hname, hnode, ih]
  | file hname hnode =>
      rw [walk_down hname, hnode]
      rfl
  | free hname hnode =>
      rw [walk_down hname, hnode]
      rfl

/-- The function that follows names goes by the rules. -/
theorem walk_eq_ok : t.walk place names = .ok target ↔ Walk t place names target := by
  refine ⟨fun h => ?_, walk_of_walk⟩
  -- Each rule takes one name off, so the rules are found name by name.
  induction names generalizing place with
  | nil =>
      cases h
      exact .here place
  | cons name rest ih =>
      rcases name_cases name with hgap | rfl | hdown | ⟨hleads, hne, hlong⟩
      · rw [walk_gap hgap] at h
        exact .gap hgap (ih h)
      · rw [walk_up] at h
        exact .up (ih h)
      · rw [walk_down hdown] at h
        cases hnode : t.node? (Text.known name :: place) with
        | none =>
            simp only [hnode] at h
            cases rest with
            | nil =>
                cases h
                exact .free hdown hnode
            | cons _ _ => cases h
        | some node =>
            cases node with
            | directory =>
                simp only [hnode] at h
                exact .down hdown hnode (ih h)
            | file bytes =>
                simp only [hnode] at h
                cases rest with
                | nil =>
                    cases h
                    exact .file hdown hnode
                | cons _ _ => cases h
      · rw [walk_long hleads hne hlong] at h
        cases h

/-- Behind a directory that is found, a walk goes on from there. -/
theorem walk_append {found : Place} (h : Walk t place a (.found found .directory)) :
    t.walk place (a ++ b) = t.walk found b := by
  generalize htarget : Target.found found .directory = target at h
  induction h with
  | here place =>
      cases htarget
      rfl
  | gap hname _ ih => rw [List.cons_append, walk_gap hname, ih htarget]
  | up _ ih => rw [List.cons_append, walk_up, ih htarget]
  | down hname hnode _ ih => rw [List.cons_append, walk_down hname, hnode]; exact ih htarget
  | file hname hnode => cases htarget
  | free hname hnode => cases htarget

/-! ## Where walks end -/

theorem onward_gap (h : Path.leads name = false) : onward place name = place := by
  rw [onward, if_neg (Bool.eq_false_iff.mp h)]

theorem onward_up : onward place ".." = place.tail := by
  rw [onward, if_pos leads_up, if_pos rfl]

theorem onward_down (h : LeadsDown name) : onward place name = Text.known name :: place := by
  rw [onward, if_pos h.leads, if_neg h.ne]

/-- A walk ends at its destination. -/
theorem Walk.destination (h : Walk t place names target) :
    target.place = destination place names := by
  induction h with
  | here place => rfl
  | gap hname _ ih => rw [ih, destination_cons, onward_gap hname]
  | up _ ih => rw [ih, destination_cons, onward_up]
  | down hname _ _ ih => rw [ih, destination_cons, onward_down hname]
  | file hname _ => rw [destination_cons, onward_down hname]; rfl
  | free hname _ => rw [destination_cons, onward_down hname]; rfl

/-- A target is what stands at its place. -/
theorem Walk.node? (h : Walk t place names target) (hplace : t.Anchored place) :
    t.node? target.place = target.node? := by
  induction h with
  | here place => exact hplace place (List.suffix_refl place)
  | gap _ _ ih => exact ih hplace
  | up _ ih => exact ih hplace.tail
  | down _ hnode _ ih => exact ih (hplace.cons hnode)
  | file _ hnode => exact hnode
  | free _ hnode => exact hnode

/-- The directories above the place of a target stand. -/
theorem Walk.anchored (h : Walk t place names target) (hplace : t.Anchored place) :
    t.Anchored target.place.tail := by
  induction h with
  | here place => exact hplace.tail
  | gap _ _ ih => exact ih hplace
  | up _ ih => exact ih hplace.tail
  | down _ hnode _ ih => exact ih (hplace.cons hnode)
  | file _ _ => exact hplace
  | free _ _ => exact hplace

/-! ## Trees that grow -/

/-- What was found is found again, as what it was. -/
theorem Walk.grow (h : Walk t place names target) (hkept : KindsKept t t')
    (htarget : target.node? = some node) :
    ∃ node', Walk t' place names (.found target.place node') ∧ node'.kind = node.kind := by
  induction h with
  | here place =>
      cases htarget
      exact ⟨.directory, .here place, rfl⟩
  | gap hname _ ih =>
      rcases ih htarget with ⟨node', hwalk, hkind⟩
      exact ⟨node', .gap hname hwalk, hkind⟩
  | up _ ih =>
      rcases ih htarget with ⟨node', hwalk, hkind⟩
      exact ⟨node', .up hwalk, hkind⟩
  | down hname hnode _ ih =>
      rcases ih htarget with ⟨node', hwalk, hkind⟩
      exact ⟨node', .down hname (hkept.directory hnode) hwalk, hkind⟩
  | file hname hnode =>
      cases htarget
      rcases hkept.node _ _ hnode with ⟨node', hnode', hkind⟩
      cases node' with
      | directory => cases hkind
      | file bytes => exact ⟨.file bytes, .file hname hnode', hkind⟩
  | free _ _ => cases htarget

/-- What led to nothing leads to what was put there. -/
theorem Walk.fill (h : Walk t place names target) (hkept : KindsKept t t')
    (htarget : target.node? = none) (hnode' : t'.node? target.place = some node) :
    Walk t' place names (.found target.place node) := by
  induction h with
  | here _ => cases htarget
  | gap hname _ ih => exact .gap hname (ih htarget hnode')
  | up _ ih => exact .up (ih htarget hnode')
  | down hname hnode _ ih => exact .down hname (hkept.directory hnode) (ih htarget hnode')
  | file _ _ => cases htarget
  | free hname hnode =>
      cases node with
      | directory => exact .down hname hnode' (.here _)
      | file bytes => exact .file hname hnode'

/-- A name that is too long stays too long. -/
theorem walk_tooLong (hkept : KindsKept t t')
    (h : t.walk place names = .error (.system .nameTooLong)) :
    t'.walk place names = .error (.system .nameTooLong) := by
  induction names generalizing place with
  | nil => cases h
  | cons name rest ih =>
      rcases name_cases name with hgap | rfl | hdown | ⟨hleads, hne, hlong⟩
      · rw [walk_gap hgap] at h ⊢
        exact ih h
      · rw [walk_up] at h ⊢
        exact ih h
      · rw [walk_down hdown] at h
        cases hnode : t.node? (Text.known name :: place) with
        | none =>
            simp only [hnode] at h
            split at h <;> cases h
        | some node =>
            cases node with
            | directory =>
                simp only [hnode] at h
                rw [walk_down hdown, hkept.directory hnode]
                exact ih h
            | file bytes =>
                simp only [hnode] at h
                split at h <;> cases h
      · exact walk_long hleads hne hlong

/-- Walks fail in one of three ways. -/
theorem walk_error {e : FileError} (h : t.walk place names = .error e) :
    e = .system .nameTooLong ∨ e = .system .noSuchFile ∨ e = .system .notDirectory := by
  induction names generalizing place with
  | nil => cases h
  | cons name rest ih =>
      rcases name_cases name with hgap | rfl | hdown | ⟨hleads, hne, hlong⟩
      · rw [walk_gap hgap] at h
        exact ih h
      · rw [walk_up] at h
        exact ih h
      · rw [walk_down hdown] at h
        cases hnode : t.node? (Text.known name :: place) with
        | none =>
            simp only [hnode] at h
            split at h
            · cases h
            · cases h
              exact .inr (.inl rfl)
        | some node =>
            cases node with
            | directory =>
                simp only [hnode] at h
                exact ih h
            | file bytes =>
                simp only [hnode] at h
                split at h
                · cases h
                · cases h
                  exact .inr (.inr rfl)
      · rw [walk_long hleads hne hlong] at h
        cases h
        exact .inl rfl

/-- A file that stands is found on the way straight down, unless a name is too long. -/
theorem walk_stands (hnames : IsStraight names) (hne : names ≠ [])
    (h : t.Stands (destination place names) bytes) :
    t.walk place names = .ok (.found (destination place names) (.file bytes)) ∨
      t.walk place names = .error (.system .nameTooLong) := by
  induction names generalizing place with
  | nil => exact absurd rfl hne
  | cons name rest ih =>
      rcases List.forall_mem_cons.mp hnames with ⟨⟨hleads, hup⟩, hrest⟩
      rcases Nat.lt_or_ge nameLimit (byteCount name) with hlong | hshort
      · exact .inr (walk_long hleads hup hlong)
      have hdown : LeadsDown name := ⟨hleads, hup, hshort⟩
      rw [destination_cons, onward_down hdown] at h ⊢
      rw [walk_down hdown]
      cases rest with
      | nil =>
          have hnode : t.node? (Text.known name :: place) = some (.file bytes) := h.1
          rw [hnode]
          exact .inl rfl
      | cons second others =>
          -- The place is above the file, so a directory stands there.
          have hnode : t.node? (Text.known name :: place) = some .directory := by
            refine h.2 (Text.known name :: place) ?_
            rw [destination_straight hrest, List.map_cons, List.reverse_cons, List.append_assoc,
              List.singleton_append]
            cases hothers : (others.map Text.known).reverse with
            | nil => exact List.suffix_refl _
            | cons last more =>
                exact (List.suffix_cons _ _).trans (List.suffix_append more _)
          rw [hnode]
          exact ih hrest (List.cons_ne_nil second others) h

/-! ## Paths -/

/-- The place where a path starts. -/
def origin (t : FileTree) (start : PathStart) : Place :=
  if start = .here then t.workingDirectory else []

/-- The place where a path leads, whatever stands there. -/
def placeOf (t : FileTree) (p : Path) : Place :=
  destination (t.origin p.start) p.names

theorem anchored_origin (t : FileTree) (start : PathStart) : t.Anchored (t.origin start) := by
  rw [origin]
  split
  · exact t.anchored_workingDirectory
  · exact t.anchored_root

/-- What is wrong with the text of a path, whatever the tree. -/
def pathFault? (path : Text) : Option FileError :=
  if (Text.fileBytes? path).isNone then some .unencodable
  else if path.contains '\x00' then some .nullCharacter
  else if path.isEmpty then some (.system .noSuchFile)
  else if pathLimit ≤ byteCount path then some (.system .nameTooLong)
  else none

/-- Following a path is a walk from where it starts, if nothing is wrong with its text. -/
theorem follow_text (t : FileTree) (path : Text) : t.follow path =
    match pathFault? path with
    | some e => .error e
    | none => t.walk (t.origin (Path.startOf path)) (Text.splitOn '/' path) := by
  rewrite [follow, pathFault?, origin]
  split_ifs <;> rfl

theorem walk_gaps {gaps : List Text} (h : ∀ gap ∈ gaps, Path.leads gap = false) :
    t.walk place (gaps ++ names) = t.walk place names := by
  induction gaps with
  | nil => rfl
  | cons gap rest ih =>
      rcases List.forall_mem_cons.mp h with ⟨hgap, hrest⟩
      rw [List.cons_append, walk_gap hgap, ih hrest]

/-- Following a path that is made of names. -/
theorem follow_eq (t : FileTree) {p : Path} (h : p.IsProper) : t.follow p.text =
    match pathFault? p.text with
    | some e => .error e
    | none => t.walk (t.origin p.start) p.names := by
  rcases Path.pieces_text h with ⟨gaps, hgaps, hsplit⟩
  rw [follow_text, hsplit, walk_gaps hgaps, Path.startOf_text h]

end FileTree

/-! ## Trees of one directory -/

/-- A tree of files in the working directory, which is the root. -/
def filesTree (files : List (Text × String)) : FileTree :=
  ⟨files.map fun f => ([f.1], .file f.2.toUTF8), []⟩

end CallSnippets
