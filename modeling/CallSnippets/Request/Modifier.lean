import CallSnippets.Number.Word
import CallSnippets.Record.Scalar
import CallSnippets.Value.Display

/-!
# Query modifiers

The recognised modifiers of a query. Three of them take any number of values, which are joined when
the query is written; each of the others takes one text or whole number. The two sorts are kept
apart in the types, so that a delimiter is only ever asked for where there is one.

## Main definitions

* `ManyKind`, `OneKind`, `ModifierKind`: The kinds.
* `ModifierKind.all`: The kinds in the order in which they are written.
* `Modifier`: A kind with what it is set to.
* `Modifiers.put`, `Modifiers.find?`: Setting and finding a modifier.
* `readModifiers`: Reads modifiers from a mapping.
-/

namespace CallSnippets

/-- The kinds that take any number of values. -/
inductive ManyKind where
  /-- Conditions that results meet. -/
  | filter
  /-- Properties that results show. -/
  | select
  /-- Properties that results are sorted by. -/
  | orderby
  deriving DecidableEq, Repr

/-- The kinds that take one value. -/
inductive OneKind where
  /-- A phrase to search for. -/
  | search
  /-- A relation to include. -/
  | expand
  /-- A count of results to leave out. -/
  | skip
  /-- A mark of where to go on. -/
  | skiptoken
  /-- The most results wanted. -/
  | top
  deriving DecidableEq, Repr

/-- The kinds of modifiers. -/
inductive ModifierKind where
  /-- A kind that takes any number of values. -/
  | many (kind : ManyKind)
  /-- A kind that takes one value. -/
  | one (kind : OneKind)
  deriving DecidableEq, Repr

namespace ModifierKind

/-- The kinds in the order in which they are written. -/
def all : List ModifierKind :=
  [.many .filter, .one .search, .one .expand, .many .select, .many .orderby, .one .skip,
    .one .skiptoken, .one .top]

/-- The name of a kind. -/
def name : ModifierKind → Text
  | .many .filter => "filter"
  | .one .search => "search"
  | .one .expand => "expand"
  | .many .select => "select"
  | .many .orderby => "orderby"
  | .one .skip => "skip"
  | .one .skiptoken => "skiptoken"
  | .one .top => "top"

/-- The kinds under their names. -/
def byName : List (Text × ModifierKind) :=
  all.map fun kind => (kind.name, kind)

/-- The kind with a name. -/
def ofName? (name : Text) : Option ModifierKind :=
  byName.lookup name

end ModifierKind

/-- A text or a whole number. -/
inductive Scalar where
  /-- A text. -/
  | text (t : Text)
  /-- A whole number. -/
  | int (n : Int)
  deriving DecidableEq, Repr

/-- A modifier: a kind with what it is set to. -/
inductive Modifier where
  /-- A kind with any number of values. -/
  | many (kind : ManyKind) (values : List Text)
  /-- A kind with one value. -/
  | one (kind : OneKind) (value : Scalar)
  deriving DecidableEq, Repr

/-- The kind of a modifier. -/
def Modifier.kind : Modifier → ModifierKind
  | many k _ => .many k
  | one k _ => .one k

/-- The modifiers of a request, at most one of each kind. -/
abbrev Modifiers := List Modifier

namespace Modifiers

/-- The modifiers with one more set: a new kind goes last, a known one keeps its place. -/
def put (m : Modifier) : Modifiers → Modifiers
  | [] => [m]
  | known :: rest => if known.kind = m.kind then m :: rest else known :: put m rest

/-- The modifier of a kind. -/
def find? (kind : ModifierKind) (modifiers : Modifiers) : Option Modifier :=
  List.find? (fun m => m.kind = kind) modifiers

/-- Modifiers that set the same kinds to the same values, in whatever order. -/
def same (a b : Modifiers) : Bool :=
  ModifierKind.all.all fun kind => find? kind a == find? kind b

end Modifiers

/-- What a mapping gives for a modifier, whatever its kind. -/
inductive Given where
  /-- A text or a whole number. -/
  | scalar (s : Scalar)
  /-- A list of texts. -/
  | texts (ts : List Text)
  deriving DecidableEq, Repr

/-- Reads what is given for a modifier: a text, else a whole number, else a list of texts. If it is
    none of them, the issues of each reading stand under its name. -/
def readGiven (v : Value) : Reading Given :=
  let text := readText v
  let int := readWhole v
  let texts := readTuple readText v
  match text, int, texts with
  | .ok t, _, _ => .ok (.scalar (.text t))
  | _, .ok n, _ => .ok (.scalar (.int n))
  | _, _, .ok ts => .ok (.texts ts)
  | .error a, .error b, .error c =>
    .error (a.map (Issue.under (.name "str")) ++ b.map (Issue.under (.name "int")) ++
      c.map (Issue.under (.name "tuple[str, ...]")))

/-- How a step shows a key that is neither a text nor a position. -/
def keyForm (key : Value) : Text :=
  match key.form with
  | .ok t => t
  | .error _ => "<unprintable " ++ key.typeName ++ " object>"

/-- The step to the entry of a mapping with a key. -/
def keyStep : Value → Step
  | .text t => .name (Text.replaceHalves t)
  | .int n => if fitsWord n then .index n else .name (keyForm (.int n))
  | .bool b => .index (if b then 1 else 0)
  | key => .name (keyForm key)

/-- Reads the kind that a key of a mapping names. -/
def readKind (key : Value) : Reading ModifierKind :=
  Reading.under (.name "[key]") (readChoice ModifierKind.byName key)

/-- Reads one entry of a mapping of modifiers. -/
def readGivenEntry (entry : Value × Value) : Reading (ModifierKind × Given) :=
  Reading.under (keyStep entry.1)
    (Reading.and (Reading.and (.ok Prod.mk) (readKind entry.1)) (readGiven entry.2))

/-- The words of the refusal of several values where one is expected. -/
def severalRefused (kind : OneKind) : Text :=
  "modifier '" ++ (ModifierKind.one kind).name ++ "' takes a single value, got a list"

/-- A scalar as the value of a kind that takes texts. -/
def Scalar.text? : Scalar → Except Fault Text
  | .text t => .ok t
  | .int n => intTextOrFault n

/-- A modifier of a kind, set to what was given for it: a kind with many values takes one given as a
    list of one, a kind with one value takes no list. -/
def Modifier.ofGiven (kind : ModifierKind) (given : Given) : Except Text Modifier :=
  match kind, given with
  | .many k, .texts ts => .ok (.many k ts)
  | .many k, .scalar s =>
    match s.text? with
    | .ok t => .ok (.many k [t])
    | .error fault => .error fault.message
  | .one k, .scalar s => .ok (.one k s)
  | .one k, .texts _ => .error (severalRefused k)

/-- The modifiers of what is given for each kind, or the first refusal. -/
def Modifiers.ofGiven : List (ModifierKind × Given) → Except Text Modifiers
  | [] => .ok []
  | (kind, given) :: rest => do
    let m ← Modifier.ofGiven kind given
    let ms ← Modifiers.ofGiven rest
    return m :: ms

/-- What is given for each kind, the last one where a kind is named more than once. -/
def Given.put (entry : ModifierKind × Given) :
    List (ModifierKind × Given) → List (ModifierKind × Given)
  | [] => [entry]
  | known :: rest => if known.1 = entry.1 then entry :: rest else known :: Given.put entry rest

/-- Reads modifiers from a mapping from the names of kinds. What the kinds refuse is only said once
    every entry is well-formed. -/
def readModifiers : Value → Reading Modifiers :=
  readEntries .notMap fun entries =>
    match Reading.all (entries.map readGivenEntry) with
    | .error issues => .error issues
    | .ok given =>
      match Modifiers.ofGiven (given.foldl (fun known e => Given.put e known) []) with
      | .ok modifiers => .ok modifiers
      | .error message => Reading.fail (.refused message)

end CallSnippets
