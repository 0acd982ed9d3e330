import CallSnippets.Proofs.Files.Tree

/-!
# What storing a text changes

Storing a text makes the directories above its path that are missing, from the top down, and then writes
one file. So there are two ways only in which a place can change: a place to which a part of the path
leads gets a directory where nothing stood, and the place of the whole path gets a file where no directory
stood. This holds however far the storing comes. Where it succeeds, the path leads to the file with the
bytes of the text afterwards.

A tree that is changed in these ways grows: directories stay directories and files stay files. A file
that stands is even kept as it is, unless something is written to its place.

## Main definitions

* `Changes`: One tree has become another one in the two ways.
* `FilesKept`: The files that stand are kept as they are.
* `FileTree.Above`: A part of a path leads to a place.

## Theorems

* `Changes.trans`, `Changes.kindsKept`, `Changes.filesKept`: What follows from changes.
* `look_grow`, `read_grow`: What is seen and read in trees that grow.
* `makeDirectories_changes`, `storeText_changes`: What is changed.
* `storeText_ok`: What is there afterwards.
* `storeText_tooLong`: Nothing is stored at a path that is too long.
-/

namespace CallSnippets

namespace FileTree

variable {t t' t'' : FileTree} {place : Place} {node : FileNode} {bytes : ByteArray} {p : Path}
  {path s : Text} {kind : FileKind} {target : Target} {made made' written written' : Place → Prop}

/-! ## Changes -/

/-- One tree has become another one by making directories where nothing stood and by writing files where
    no directory stood, at places of two kinds. -/
structure Changes (made written : Place → Prop) (t t' : FileTree) : Prop where
  /-- Paths start where they did. -/
  workingDirectory : t'.workingDirectory = t.workingDirectory
  /-- A place is as it was, or a directory was made there, or a file was written there. -/
  node : ∀ place, t'.node? place = t.node? place ∨
    (t.node? place = none ∧ t'.node? place = some .directory ∧ made place) ∨
    (t.node? place ≠ some .directory ∧ (∃ bytes, t'.node? place = some (.file bytes)) ∧ written place)

theorem Changes.refl (made written : Place → Prop) (t : FileTree) : Changes made written t t :=
  ⟨rfl, fun _ => .inl rfl⟩

theorem Changes.mono (h : Changes made written t t') (hmade : ∀ place, made place → made' place)
    (hwritten : ∀ place, written place → written' place) : Changes made' written' t t' := by
  refine ⟨h.workingDirectory, fun place => ?_⟩
  rcases h.node place with hsame | ⟨hold, hnew, hplace⟩ | ⟨hold, hnew, hplace⟩
  · exact .inl hsame
  · exact .inr (.inl ⟨hold, hnew, hmade place hplace⟩)
  · exact .inr (.inr ⟨hold, hnew, hwritten place hplace⟩)

theorem Changes.trans (h : Changes made written t t') (h' : Changes made written t' t'') :
    Changes made written t t'' := by
  refine ⟨h'.workingDirectory.trans h.workingDirectory, fun place => ?_⟩
  rcases h.node place with hsame | ⟨hold, hnew, hplace⟩ | ⟨hold, ⟨bytes, hnew⟩, hplace⟩
  · rw [← hsame]
    exact h'.node place
  · -- A directory that was made is left alone.
    rcases h'.node place with hsame' | ⟨hold', _, _⟩ | ⟨hold', _, _⟩
    · exact .inr (.inl ⟨hold, hsame'.trans hnew, hplace⟩)
    · rw [hnew] at hold'
      cases hold'
    · exact absurd hnew hold'
  · -- A file that was written may only be written once more.
    rcases h'.node place with hsame' | ⟨hold', _, _⟩ | ⟨_, hnew', _⟩
    · exact .inr (.inr ⟨hold, ⟨bytes, hsame'.trans hnew⟩, hplace⟩)
    · rw [hnew] at hold'
      cases hold'
    · exact .inr (.inr ⟨hold, hnew', hplace⟩)

theorem Changes.kindsKept (h : Changes made written t t') : KindsKept t t' := by
  refine ⟨h.workingDirectory, fun place node hnode => ?_⟩
  rcases h.node place with hsame | ⟨hold, _, _⟩ | ⟨hold, ⟨bytes, hnew⟩, _⟩
  · exact ⟨node, hsame.trans hnode, rfl⟩
  · rw [hnode] at hold
    cases hold
  · cases node with
    | directory => exact absurd hnode hold
    | file old => exact ⟨.file bytes, hnew, rfl⟩

/-- What stands is kept, and the files that stand are kept as they are. -/
structure FilesKept (t t' : FileTree) : Prop where
  /-- What stands is kept. -/
  kinds : KindsKept t t'
  /-- A file that stands has the same bytes. -/
  files : ∀ place bytes, t.Stands place bytes → t'.Stands place bytes

theorem FilesKept.refl (t : FileTree) : FilesKept t t :=
  ⟨⟨rfl, fun _ node hnode => ⟨node, hnode, rfl⟩⟩, fun _ _ h => h⟩

theorem KindsKept.trans (h : KindsKept t t') (h' : KindsKept t' t'') : KindsKept t t'' := by
  refine ⟨h'.workingDirectory.trans h.workingDirectory, fun place node hnode => ?_⟩
  rcases h.node place node hnode with ⟨node', hnode', hkind⟩
  rcases h'.node place node' hnode' with ⟨node'', hnode'', hkind'⟩
  exact ⟨node'', hnode'', hkind'.trans hkind⟩

theorem FilesKept.trans (h : FilesKept t t') (h' : FilesKept t' t'') : FilesKept t t'' :=
  ⟨h.kinds.trans h'.kinds, fun place bytes hstands => h'.files place bytes (h.files place bytes hstands)⟩

/-- The files that stand are kept if nothing is written where one stands. -/
theorem Changes.filesKept (h : Changes made written t t')
    (hwritten : ∀ place bytes, written place → ¬t.Stands place bytes) : FilesKept t t' := by
  refine ⟨h.kindsKept, fun place bytes hstands => ⟨?_, h.kindsKept.anchored hstands.2⟩⟩
  rcases h.node place with hsame | ⟨hold, _, _⟩ | ⟨_, _, hplace⟩
  · exact hsame.trans hstands.1
  · rw [hstands.1] at hold
    cases hold
  · exact absurd hstands (hwritten place bytes hplace)

/-! ## Paths in trees that grow -/

theorem KindsKept.origin (h : KindsKept t t') (start : PathStart) : t'.origin start = t.origin start := by
  rw [FileTree.origin, FileTree.origin, h.workingDirectory]

theorem KindsKept.placeOf (h : KindsKept t t') (p : Path) : t'.placeOf p = t.placeOf p := by
  rw [FileTree.placeOf, FileTree.placeOf, h.origin]

/-- A path leads to a target if nothing is wrong with its text and its pieces do. -/
theorem follow_eq_ok : t.follow path = .ok target ↔ pathFault? path = none ∧
    Walk t (t.origin (Path.startOf path)) (Text.splitOn '/' path) target := by
  rw [follow_text]
  cases pathFault? path with
  | none => simp only [true_and, walk_eq_ok]
  | some e => simp only [reduceCtorEq, false_and]

theorem follow_proper (hp : p.IsProper) : t.follow p.text = .ok target ↔
    pathFault? p.text = none ∧ Walk t (t.origin p.start) p.names target := by
  rw [follow_eq t hp]
  cases pathFault? p.text with
  | none => simp only [true_and, walk_eq_ok]
  | some e => simp only [reduceCtorEq, false_and]

theorem follow_place (hp : p.IsProper) (h : t.follow p.text = .ok target) :
    target.place = t.placeOf p :=
  ((follow_proper hp).mp h).2.destination

theorem follow_node? (h : t.follow path = .ok target) : t.node? target.place = target.node? :=
  (follow_eq_ok.mp h).2.node? (t.anchored_origin _)

theorem follow_grow (hkept : KindsKept t t') (h : t.follow path = .ok (.found place node)) :
    ∃ node', t'.follow path = .ok (.found place node') ∧ node'.kind = node.kind := by
  rcases follow_eq_ok.mp h with ⟨hpath, hwalk⟩
  rcases hwalk.grow hkept rfl with ⟨node', hwalk', hkind⟩
  refine ⟨node', follow_eq_ok.mpr ⟨hpath, ?_⟩, hkind⟩
  rwa [hkept.origin]

theorem look_eq_ok : t.look path = .ok kind ↔
    ∃ place node, t.follow path = .ok (.found place node) ∧ node.kind = kind := by
  rw [look, bind_eq_ok]
  constructor
  · rintro ⟨target, htarget, hkind⟩
    cases target with
    | found place node =>
        cases hkind
        exact ⟨place, node, htarget, rfl⟩
    | free place => cases hkind
  · rintro ⟨place, node, hfollow, rfl⟩
    exact ⟨_, hfollow, rfl⟩

theorem read_eq_ok : t.read path = .ok bytes ↔
    ∃ place, t.follow path = .ok (.found place (.file bytes)) := by
  rw [read, bind_eq_ok]
  constructor
  · rintro ⟨target, htarget, hbytes⟩
    cases target with
    | found place node =>
        cases node with
        | file old =>
            cases hbytes
            exact ⟨place, htarget⟩
        | directory => cases hbytes
    | free place => cases hbytes
  · rintro ⟨place, hfollow⟩
    exact ⟨_, hfollow, rfl⟩

/-- What is at a path is seen there in a tree that has grown. -/
theorem look_grow (hkept : KindsKept t t') (h : t.look path = .ok kind) : t'.look path = .ok kind := by
  rcases look_eq_ok.mp h with ⟨place, node, hfollow, rfl⟩
  rcases follow_grow hkept hfollow with ⟨node', hfollow', hkind⟩
  exact look_eq_ok.mpr ⟨place, node', hfollow', hkind⟩

/-- What is read at a path is read there if the files that stand are kept. -/
theorem read_grow (hkept : FilesKept t t') (h : t.read path = .ok bytes) : t'.read path = .ok bytes := by
  rcases read_eq_ok.mp h with ⟨place, hfollow⟩
  rcases follow_grow hkept.kinds hfollow with ⟨node', hfollow', _⟩
  have hstands : t.Stands place bytes :=
    ⟨follow_node? hfollow, (follow_eq_ok.mp hfollow).2.anchored (t.anchored_origin _)⟩
  have hnode : some node' = some (.file bytes) :=
    (follow_node? hfollow').symm.trans (hkept.files place bytes hstands).1
  cases hnode
  exact read_eq_ok.mpr ⟨place, hfollow'⟩

/-- Why nothing is seen at a path: its text is wrong, or it cannot be walked, or leads to nothing. -/
theorem look_error {e : FileError} (h : t.look path = .error e) :
    pathFault? path = some e ∨ e = .system .nameTooLong ∨ e = .system .noSuchFile ∨
      e = .system .notDirectory := by
  rw [look, bind_eq_error] at h
  rcases h with herror | ⟨target, _, herror⟩
  · rw [follow_text] at herror
    cases hfault : pathFault? path with
    | some e' =>
        simp only [hfault, Except.error.injEq] at herror
        exact .inl (congrArg some herror)
    | none =>
        simp only [hfault] at herror
        exact .inr (walk_error herror)
  · cases target with
    | found place node => cases herror
    | free place =>
        cases herror
        exact .inr (.inr (.inl rfl))

/-- What is wrong with the text of a path is what is answered in any tree. -/
theorem look_fault {e : FileError} (h : pathFault? path = some e) : t.look path = .error e := by
  rw [look, follow_text, h]
  rfl

/-! ## Steps on trees -/

/-- A step of two parts on a tree. -/
theorem run_bind {α β : Type} (x : StateM FileTree α) (f : α → StateM FileTree β) (t : FileTree) :
    (x >>= f) t = f (x t).1 (x t).2 := rfl

theorem run_pure {α : Type} (a : α) (t : FileTree) : (pure a : StateM FileTree α) t = (a, t) := rfl

theorem run_look (path : Text) (t : FileTree) :
    (FileSystem.look path : StateM FileTree _) t = (t.look path, t) := rfl

theorem run_writeFile (path : Text) (bytes : ByteArray) (t : FileTree) :
    (FileSystem.writeFile path bytes : StateM FileTree _) t =
      match t.write path bytes with
      | .ok next => (.ok (), next)
      | .error e => (.error e, t) := rfl

theorem run_createDirectory (path : Text) (t : FileTree) :
    (FileSystem.createDirectory path : StateM FileTree _) t =
      match t.create path with
      | .ok next => (.ok (), next)
      | .error e => (.error e, t) := rfl

theorem run_isPresent (p : Path) (t : FileTree) :
    (isPresent p : StateM FileTree _) t = (foundAs (fun _ => true) (t.look p.text), t) := rfl

/-- A place that a path leads to is changed by making a directory there. -/
theorem create_changes (hp : p.IsProper) (h : t.create p.text = .ok t') :
    Changes (· = t.placeOf p) (fun _ => False) t t' := by
  rw [create, bind_eq_ok] at h
  rcases h with ⟨target, hfollow, hput⟩
  cases target with
  | found place node => cases hput
  | free place =>
      cases hput
      have hfree : t.node? place = none := follow_node? hfollow
      have hplace : place = t.placeOf p := follow_place hp hfollow
      refine ⟨rfl, fun other => ?_⟩
      by_cases hother : other = place
      · rw [hother]
        exact .inr (.inl ⟨hfree, node?_put_self (by rw [hfree]; exact nofun), hplace⟩)
      · exact .inl (node?_put_ne hother)

/-- A place that a path leads to is changed by writing a file there, and the path leads to that file. -/
theorem write_changes (hp : p.IsProper) (h : t.write p.text bytes = .ok t') :
    Changes (fun _ => False) (fun place => place = t.placeOf p ∧ pathFault? p.text = none) t t' ∧
      t'.follow p.text = .ok (.found (t.placeOf p) (.file bytes)) := by
  rw [write, bind_eq_ok] at h
  rcases h with ⟨target, hfollow, hput⟩
  rcases (follow_proper hp).mp hfollow with ⟨hpath, hwalk⟩
  have hplace : target.place = t.placeOf p := follow_place hp hfollow
  have hnode : t.node? target.place = target.node? := follow_node? hfollow
  -- A file or nothing is at the place, and the tree is the one with the bytes put there.
  have hcase : t.node? target.place ≠ some .directory ∧ t' = t.put target.place (.file bytes) := by
    cases target with
    | found place node =>
        cases node with
        | file old =>
            cases hput
            exact ⟨by rw [hnode]; exact nofun, rfl⟩
        | directory => cases hput
    | free place =>
        cases hput
        exact ⟨by rw [hnode]; exact nofun, rfl⟩
  rcases hcase with ⟨hfile, rfl⟩
  have hself : (t.put target.place (.file bytes)).node? target.place = some (.file bytes) :=
    node?_put_self hfile
  have hchanges : Changes (fun _ => False) (fun place => place = t.placeOf p ∧ pathFault? p.text = none)
      t (t.put target.place (.file bytes)) := by
    refine ⟨rfl, fun other => ?_⟩
    by_cases hother : other = target.place
    · rw [hother]
      exact .inr (.inr ⟨hfile, ⟨bytes, hself⟩, hplace, hpath⟩)
    · exact .inl (node?_put_ne hother)
  refine ⟨hchanges, ?_⟩
  rw [← hplace]
  cases htarget : target.node? with
  | none =>
      exact (follow_proper hp).mpr ⟨hpath, hwalk.fill hchanges.kindsKept htarget hself⟩
  | some node =>
      rcases hwalk.grow hchanges.kindsKept htarget with ⟨node', hwalk', _⟩
      have hfollow' : (t.put target.place (.file bytes)).follow p.text =
          .ok (.found target.place node') := (follow_proper hp).mpr ⟨hpath, hwalk'⟩
      have hsame : some node' = some (.file bytes) := (follow_node? hfollow').symm.trans hself
      cases hsame
      exact hfollow'

/-! ## Directories -/

/-- A part of a path leads to a place. -/
def Above (t : FileTree) (p : Path) (place : Place) : Prop :=
  ∃ names, names <+: p.names ∧ place = destination (t.origin p.start) names

theorem KindsKept.above (h : KindsKept t t') (p : Path) : t'.Above p = t.Above p := by
  funext place
  rw [Above, Above, h.origin]

theorem Above.longer {start : PathStart} {a b : List Text} (hpart : a <+: b)
    (h : t.Above ⟨start, a⟩ place) : t.Above ⟨start, b⟩ place := by
  rcases h with ⟨names, hnames, hplace⟩
  exact ⟨names, hnames.trans hpart, hplace⟩

theorem unlessDirectory_tree (p : Path) (e : FileError) (t : FileTree) :
    ((unlessDirectory p e : StateM FileTree _) t).2 = t := by
  cases e with
  | system e =>
      rw [unlessDirectory, run_bind, isDirectory, run_bind, run_look, run_pure]
      cases foundAs (fun kind => decide (kind = .directory)) (t.look p.text) with
      | error e => rfl
      | ok found => cases found <;> rfl
  | nullCharacter => rfl
  | unencodable => rfl

theorem run_makeDirectory (p : Path) (t : FileTree) : (makeDirectory p : StateM FileTree _) t =
    match t.create p.text with
    | .ok next => (.ok (), next)
    | .error (.system .noSuchFile) => (.error (.system .noSuchFile), t)
    | .error e => (unlessDirectory p e : StateM FileTree _) t := by
  rw [makeDirectory, run_bind, run_createDirectory]
  cases t.create p.text with
  | ok next => rfl
  | error e =>
      cases e with
      | system e => cases e <;> rfl
      | nullCharacter => rfl
      | unencodable => rfl

theorem makeDirectory_changes (hp : p.IsProper) (t : FileTree) :
    Changes (· = t.placeOf p) (fun _ => False) t ((makeDirectory p : StateM FileTree _) t).2 := by
  rw [run_makeDirectory]
  split
  · exact create_changes hp ‹_›
  · exact .refl _ _ t
  · rw [unlessDirectory_tree]
    exact .refl _ _ t

/-- Only places that a part of the path leads to get a directory. -/
theorem makeAbove_changes {start : PathStart} {names : List Text}
    (hnames : ∀ name ∈ names, IsName name) (t : FileTree) :
    Changes (t.Above ⟨start, names.reverse⟩) (fun _ => False) t
      ((makeAbove start names : StateM FileTree _) t).2 := by
  induction names generalizing t with
  | nil =>
      refine (makeDirectory_changes (p := ⟨start, []⟩) (fun name hname => absurd hname List.not_mem_nil)
        t).mono ?_ fun _ h => h
      rintro place rfl
      exact ⟨[], List.prefix_refl _, rfl⟩
  | cons name above ih =>
      have hp : Path.IsProper ⟨start, (name :: above).reverse⟩ := fun n hn =>
        hnames n (List.mem_reverse.mp hn)
      have hself (u : FileTree) : Changes (u.Above ⟨start, (name :: above).reverse⟩) (fun _ => False) u
          ((makeDirectory ⟨start, (name :: above).reverse⟩ : StateM FileTree _) u).2 := by
        refine (makeDirectory_changes hp u).mono ?_ fun _ h => h
        rintro place rfl
        exact ⟨_, List.prefix_refl _, rfl⟩
      have habove := ih fun n hn => hnames n (List.mem_cons_of_mem name hn)
      rw [makeAbove, run_bind]
      have hfirst := hself t
      generalize hmade : (makeDirectory ⟨start, (name :: above).reverse⟩ : StateM FileTree _) t = first
        at hfirst ⊢
      rcases first with ⟨result, u⟩
      cases result with
      | ok _ => exact hfirst
      | error e =>
          cases e with
          | nullCharacter => exact hfirst
          | unencodable => exact hfirst
          | system e =>
              cases e with
              | noSuchFile =>
                  -- Something is missing above: that is made first, and then this directory again.
                  have hpart : above.reverse <+: (name :: above).reverse := by
                    rw [List.reverse_cons]
                    exact List.prefix_append _ _
                  have hsecond := (habove u).mono (fun place hplace => hplace.longer hpart) fun _ h => h
                  rw [hfirst.kindsKept.above] at hsecond
                  have hboth := hfirst.trans hsecond
                  change Changes _ _ t (((makeAbove start above : StateM FileTree _) >>= _) u).2
                  rw [run_bind]
                  cases ((makeAbove start above : StateM FileTree _) u).1 with
                  | error e => exact hboth
                  | ok _ =>
                      have hthird := hself ((makeAbove start above : StateM FileTree _) u).2
                      rw [hboth.kindsKept.above] at hthird
                      exact hboth.trans hthird
              | _ => exact hfirst

/-- Only places that a part of the path leads to get a directory. -/
theorem makeDirectories_changes (hp : p.IsProper) (t : FileTree) :
    Changes (t.Above p) (fun _ => False) t ((makeDirectories p : StateM FileTree _) t).2 := by
  have hnames : ∀ name ∈ p.names.reverse, IsName name := fun name hname =>
    hp name (List.mem_reverse.mp hname)
  have h : Changes (t.Above ⟨p.start, p.names.reverse.reverse⟩) (fun _ => False) t
      ((makeDirectories p : StateM FileTree _) t).2 := makeAbove_changes hnames t
  rwa [List.reverse_reverse] at h

/-! ## Texts -/

/-- Only the place of the path gets a file, and none if something is wrong with the text of the path. -/
theorem writeText_changes (hp : p.IsProper) (s : Text) (t : FileTree) :
    Changes (fun _ => False) (fun place => place = t.placeOf p ∧ pathFault? p.text = none) t
      ((writeText p s : StateM FileTree _) t).2 := by
  rw [writeText]
  cases Text.toBytes? s with
  | some bytes =>
      simp only
      rw [run_writeFile]
      cases hwrite : t.write p.text bytes with
      | ok next => exact (write_changes hp hwrite).1
      | error e => exact .refl _ _ t
  | none =>
      simp only
      rw [run_bind, run_writeFile]
      cases hwrite : t.write p.text .empty with
      | ok next => exact (write_changes hp hwrite).1
      | error e => exact .refl _ _ t

/-- What storing a text changes, however far it comes. -/
theorem storeText_changes (hp : p.IsProper) (s : Text) (t : FileTree) :
    Changes (t.Above p.parent) (fun place => place = t.placeOf p ∧ pathFault? p.text = none) t
      ((storeText p s : StateM FileTree _) t).2 := by
  have hmade : Changes (t.Above p.parent) (fun place => place = t.placeOf p ∧ pathFault? p.text = none) t
      ((makeDirectories p.parent : StateM FileTree _) t).2 :=
    (makeDirectories_changes (Path.isProper_parent hp) t).mono (fun _ h => h) fun _ h => h.elim
  rw [storeText, run_bind]
  cases ((makeDirectories p.parent : StateM FileTree _) t).1 with
  | error e => exact hmade
  | ok _ =>
      have hwritten := writeText_changes hp s ((makeDirectories p.parent : StateM FileTree _) t).2
      rw [hmade.kindsKept.placeOf] at hwritten
      exact hmade.trans (hwritten.mono (fun _ h => h.elim) fun _ h => h)

/-- Where a text was stored, its path leads to a file with its bytes. -/
theorem storeText_ok (hp : p.IsProper)
    (h : (storeText p s : StateM FileTree _) t = (.ok (), t')) :
    ∃ bytes, Text.toBytes? s = some bytes ∧
      t'.follow p.text = .ok (.found (t.placeOf p) (.file bytes)) := by
  have hmade := makeDirectories_changes (Path.isProper_parent hp) t
  rw [storeText, run_bind] at h
  generalize ((makeDirectories p.parent : StateM FileTree _) t) = made at h hmade
  rcases made with ⟨result, u⟩
  cases result with
  | error e => cases h
  | ok _ =>
      change (writeText p s : StateM FileTree _) u = _ at h
      rw [writeText] at h
      cases hbytes : Text.toBytes? s with
      | none =>
          -- The file is opened, but then the text cannot be written.
          simp only [hbytes] at h
          rw [run_bind, run_writeFile] at h
          cases hwrite : u.write p.text .empty with
          | ok next => rw [hwrite] at h; cases h
          | error e => rw [hwrite] at h; cases h
      | some bytes =>
          simp only [hbytes] at h
          rw [run_writeFile] at h
          cases hwrite : u.write p.text bytes with
          | error e => rw [hwrite] at h; cases h
          | ok next =>
              rw [hwrite] at h
              cases h
              refine ⟨bytes, rfl, ?_⟩
              rw [← hmade.kindsKept.placeOf p]
              exact (write_changes hp hwrite).2

/-- Where it is not even known whether something is there, the path is too long. -/
theorem isPresent_error {e : FileError}
    (h : foundAs (fun _ => true) (t.look p.text) = .error e) :
    t.look p.text = .error (.system .nameTooLong) := by
  cases hlook : t.look p.text with
  | ok kind => rw [hlook] at h; cases h
  | error e' =>
      rw [hlook, foundAs] at h
      cases habsent : e'.isAbsence with
      | true =>
          rw [habsent, if_pos rfl] at h
          cases h
      | false =>
          rcases look_error hlook with hfault | rfl | rfl | rfl
          · rw [pathFault?] at hfault
            split_ifs at hfault
            all_goals cases hfault
            · cases habsent
            · cases habsent
            · cases habsent
            · rfl
          · rfl
          · cases habsent
          · cases habsent

/-- A path that is too long stays too long. -/
theorem look_tooLong (hkept : KindsKept t t') (h : t.look path = .error (.system .nameTooLong)) :
    t'.look path = .error (.system .nameTooLong) := by
  rw [look, bind_eq_error] at h
  rcases h with herror | ⟨target, _, herror⟩
  · have hfollow : t'.follow path = .error (.system .nameTooLong) := by
      rw [follow_text] at herror ⊢
      cases hfault : pathFault? path with
      | some e => simpa only [hfault] using herror
      | none =>
          simp only [hfault] at herror ⊢
          rw [hkept.origin]
          exact walk_tooLong hkept herror
    rw [look, hfollow]
    rfl
  · cases target with
    | found place node => cases herror
    | free place => cases herror

/-- Nothing is stored at a path that is too long. -/
theorem storeText_tooLong (hp : p.IsProper) (h : t.look p.text = .error (.system .nameTooLong)) :
    ((storeText p s : StateM FileTree _) t).1 ≠ .ok () := by
  intro hok
  rcases storeText_ok hp (Prod.ext hok rfl) with ⟨bytes, _, hfollow⟩
  have hlook := look_tooLong (storeText_changes hp s t).kindsKept h
  rw [look_eq_ok.mpr ⟨_, _, hfollow, rfl⟩] at hlook
  cases hlook

end FileTree

end CallSnippets
