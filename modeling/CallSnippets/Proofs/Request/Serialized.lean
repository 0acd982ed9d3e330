import CallSnippets.Proofs.Request.Modifier
import CallSnippets.Proofs.Snippet.Agreement
import CallSnippets.Proofs.Text.Upper

/-!
# Descriptions that are written and read again

A description is written as a mapping of its fields, and what is written is read as the same description.

This is so because whatever a reader changes it changes into something that it leaves alone. The method
of a description that was read is in the one form of methods, its options are given once, and no kind of
modifier is set twice: it is settled. Each of the readers takes what it made for what it is, so a settled
description is read from its own form whatever it was first read from.

Two descriptions that say the same agree in whatever snippets depend on. So it does not matter in which
order the modifiers and the options of one were written.

## Main definitions

* `Request.serialized`: The mapping that stands for a description.
* `Request.IsSettled`: Reading again would change nothing.

## Theorems

* `methodOf_methodOf`: A method is brought into one form once and for all.
* `isSettled_readRequest`: A description that was read is settled.
* `readModifiers_serialized`, `readRequest_eq_self`: A settled description is read from its own form.
* `agree_of_same`: Descriptions that say the same agree.
* `readRequest_serialized`: What is read is read again, and what says the same gives the same.
-/

namespace CallSnippets

/-! ## Written forms -/

/-- The value of a text that need not be there. -/
def optionalText : Option Text → Value
  | none => .null
  | some t => .text t

/-- The value of a scalar. -/
def Scalar.serialized : Scalar → Value
  | .text t => .text t
  | .int n => .int n

/-- The entry of a modifier, with the values of a kind that takes many as a list. -/
def Modifier.serialized : Modifier → Value × Value
  | .many kind ts => ((ModifierKind.many kind).key, .list (ts.map .text))
  | .one kind s => ((ModifierKind.one kind).key, s.serialized)

/-- The mapping of a segment. -/
def Segment.serialized (s : Segment) : Value :=
  .map [(.text "identifier", .text s.identifier), (.text "kind", .text s.kind.name),
    (.text "type_name", optionalText s.typeName)]

/-- The row of a header. -/
def headerRow (header : Text × Text) : Value :=
  .tuple [.text header.1, .text header.2]

namespace Request

/-- The entries of a description, in the order of its fields. -/
def fields (r : Request) : List (Value × Value) :=
  [(.text "method", .text r.method), (.text "path", .text r.path),
    (.text "segments", .tuple (r.segments.map Segment.serialized)),
    (.text "api_version", .text r.apiVersion), (.text "query_string", .text r.queryString),
    (.text "custom_query_options", .set (r.customOptions.map .text)),
    (.text "modifiers", .map (r.modifiers.map Modifier.serialized)),
    (.text "headers", .tuple (r.headers.map headerRow)),
    (.text "request_body", optionalText r.body),
    (.text "response_variable_name", .text r.variableName)]

/-- The mapping that stands for a description. -/
def serialized (r : Request) : Value :=
  .map r.fields

/-- Reading the description again would change nothing. -/
structure IsSettled (r : Request) : Prop where
  /-- The method is in the one form that methods have. -/
  method : methodOf r.method = r.method
  /-- Each option is given once. -/
  options : r.customOptions.Nodup
  /-- No kind of modifier is set twice. -/
  kinds : (r.modifiers.map Modifier.kind).Nodup

end Request

/-! ## What is read is settled -/

theorem methodOf_methodOf (t : Text) : Request.methodOf (Request.methodOf t) = Request.methodOf t := by
  rw [Request.methodOf, Request.methodOf]
  -- Nothing is left to trim once a trimmed text is in upper case.
  rw [Text.trim_eq_self (Text.isTrimmed_trim t).upper, Text.upper_upper]

theorem methodOf_readMethod {v : Value} {method : Text} (h : readMethod v = .ok method) :
    Request.methodOf method = method := by
  rcases map_eq_ok.mp h with ⟨t, _, rfl⟩
  exact methodOf_methodOf t

theorem nodup_readSet {v : Value} {ts : List Text} (h : readSet v = .ok ts) : ts.Nodup := by
  rw [readSet] at h
  split at h
  · rcases map_eq_ok.mp h with ⟨read, _, rfl⟩
    exact nodup_distinct read
  · cases h

/-- A description that was read is settled, whatever it was read from. -/
theorem isSettled_readRequest {v : Value} {r : Request} (h : readRequest v = .ok r) : r.IsSettled := by
  rcases readEntries_eq_ok.mp h with ⟨entries, _, hentries⟩
  have hfields := readRequestFields_eq_ok.mp hentries
  constructor
  case method =>
    rcases Reading.required_eq_ok.mp hfields.method with ⟨_, _, hread⟩
    exact methodOf_readMethod hread
  case options =>
    rcases Reading.optional_eq_ok.mp hfields.customOptions with ⟨_, hnone⟩ | ⟨_, _, hread⟩
    · rw [← hnone]
      exact List.nodup_nil
    · exact nodup_readSet hread
  case kinds =>
    rcases Reading.optional_eq_ok.mp hfields.modifiers with ⟨_, hnone⟩ | ⟨_, _, hread⟩
    · rw [← hnone]
      exact List.nodup_nil
    · exact nodup_readModifiers hread

/-! ## What is settled is read again -/

theorem readNullable_optionalText (t : Option Text) :
    readNullable readText (optionalText t) = .ok t := by
  cases t <;> rfl

theorem readChoice_segmentKind (kind : SegmentKind) :
    readChoice SegmentKind.byName (.text kind.name) = .ok kind := by
  cases kind <;> decide

theorem readSegment_serialized (s : Segment) : readSegment s.serialized = .ok s := by
  rcases s with ⟨identifier, kind, typeName⟩
  refine readEntries_eq_ok.mpr ⟨_, rfl, Reading.and_eq_ok.mpr ⟨_, typeName, ?_, ?_, rfl⟩⟩
  · refine Reading.and_eq_ok.mpr ⟨_, kind, Reading.and_eq_ok.mpr ⟨_, identifier, rfl, ?_, rfl⟩, ?_, rfl⟩
    · exact Reading.required_eq_ok.mpr ⟨_, rfl, rfl⟩
    · exact Reading.optional_of_lookup rfl (readChoice_segmentKind kind)
  · exact Reading.optional_of_lookup rfl (readNullable_optionalText typeName)

/-- A row is read again if each of its items is. -/
theorem readTuple_map {α : Type} {read : Value → Reading α} {write : α → Value}
    (h : ∀ a, read (write a) = .ok a) (as : List α) : readTuple read (.tuple (as.map write)) = .ok as :=
  Reading.items_map fun a _ => h a

theorem readPair_headerRow (header : Text × Text) : readPair (headerRow header) = .ok header :=
  rfl

theorem readSet_texts {ts : List Text} (h : ts.Nodup) : readSet (.set (ts.map .text)) = .ok ts := by
  simp only [readSet, Value.items?, Value.unknot, Reading.items_text, Except.map, distinct_eq_self h]

theorem scalarOf_serialized (s : Scalar) : ScalarOf s.serialized s := by
  cases s with
  | text t => exact .text t
  | int n => exact .int n

/-- A modifier is what its entry makes. -/
theorem sets_serialized (m : Modifier) : Sets m.serialized m := by
  cases m with
  | many kind ts => exact .many ts
  | one kind s => exact .one (scalarOf_serialized s)

theorem isJson_modifiers {ms : Modifiers} (h : (ms.map Modifier.kind).Nodup) :
    IsJson (.map (ms.map Modifier.serialized)) := by
  refine isJson_kinds ?_ h ?_
  · rw [List.map_map, List.map_map]
    refine List.map_congr_left fun m _ => ?_
    cases m <;> rfl
  · intro e he
    rcases List.mem_map.mp he with ⟨m, _, rfl⟩
    cases m with
    | many kind ts => exact isJson_texts ts
    | one kind s => exact (scalarOf_serialized s).isJson

theorem readModifiers_serialized {ms : Modifiers} (h : (ms.map Modifier.kind).Nodup) :
    readModifiers (.map (ms.map Modifier.serialized)) = .ok ms := by
  refine (readModifiers_json (isJson_modifiers h)).mpr ⟨_, rfl, ?_⟩
  rw [List.forall₂_map_left_iff, List.forall₂_same]
  exact fun m _ => sets_serialized m

/-- A settled description is read from its own form. -/
theorem readRequest_eq_self {r : Request} (h : r.IsSettled) : readRequest r.serialized = .ok r := by
  -- No field is left out when a description is written, so none falls back on a value of its own.
  refine readRequestFields_eq_ok.mpr ?_
  constructor
  case method => exact Reading.required_eq_ok.mpr ⟨_, rfl, congrArg Except.ok h.method⟩
  case path => exact Reading.required_eq_ok.mpr ⟨_, rfl, rfl⟩
  case segments => exact Reading.optional_of_lookup rfl (readTuple_map readSegment_serialized _)
  case apiVersion => exact Reading.optional_of_lookup rfl rfl
  case queryString => exact Reading.optional_of_lookup rfl rfl
  case customOptions => exact Reading.optional_of_lookup rfl (readSet_texts h.options)
  case modifiers => exact Reading.optional_of_lookup rfl (readModifiers_serialized h.kinds)
  case headers => exact Reading.optional_of_lookup rfl (readTuple_map readPair_headerRow _)
  case body => exact Reading.optional_of_lookup rfl (readNullable_optionalText r.body)
  case variableName => exact Reading.optional_of_lookup rfl rfl

/-! ## Descriptions that say the same -/

theorem mem_all (kind : ModifierKind) : kind ∈ ModifierKind.all := by
  rcases kind with kind | kind <;> cases kind <;> decide

theorem Modifiers.find?_of_same {a b : Modifiers} (h : a.same b = true) (kind : ModifierKind) :
    a.find? kind = b.find? kind :=
  eq_of_beq (List.all_eq_true.mp h kind (mem_all kind))

/-- Two lists with the same members are empty together. -/
theorem eq_nil_of_sameMembers {a b : List Text} (h : Request.sameMembers a b = true) :
    a = [] ↔ b = [] := by
  rw [Request.sameMembers, Bool.and_eq_true, List.all_eq_true, List.all_eq_true] at h
  constructor
  · rintro rfl
    exact List.eq_nil_iff_forall_not_mem.mpr fun t ht => by simpa using h.2 t ht
  · rintro rfl
    exact List.eq_nil_iff_forall_not_mem.mpr fun t ht => by simpa using h.1 t ht

/-- Descriptions that say the same agree in whatever a method may look at. -/
theorem agree_of_same {a b : Request} (h : a.same b = true) (g : Grammar) : Agree g a b := by
  rw [Request.same, Bool.and_eq_true, Bool.and_eq_true, beq_iff_eq] at h
  rcases h with ⟨⟨hmodifiers, hoptions⟩, hothers⟩
  -- The two are compared without their modifiers and options, so all other fields are the same.
  rw [Request.mk.injEq] at hothers
  rcases hothers with ⟨hmethod, hpath, hsegments, hversion, hquery, _, _, hheaders, hbody, hname⟩
  have hsent : a.sentBody? = b.sentBody? := by rw [Request.sentBody?, Request.sentBody?, hbody]
  constructor
  case method => exact hmethod
  case path => exact hpath
  case version => exact hversion
  case options => exact eq_nil_of_sameMembers hoptions
  case query => exact fun _ => hquery
  case headers => exact fun _ => hheaders
  case modifiers => exact fun _ _ => Modifiers.find?_of_same hmodifiers
  case sent => exact fun _ => hsent
  case name => exact fun _ _ => hname
  case addressed =>
    intro _ _
    rw [Request.addressed?, Request.addressed?, Request.lastSegment?, Request.lastSegment?, hsegments]
  case body =>
    intro _ _
    rw [Request.hasBody_eq, Request.hasBody_eq, hsent]

/-- A description that was read is read again from its own form, and descriptions that say the same
    have the same result in every language. -/
theorem readRequest_serialized {v : Value} {r : Request} (h : readRequest v = .ok r) :
    readRequest r.serialized = .ok r ∧
      ∀ r', r.same r' = true → ∀ g, generate g r = generate g r' := by
  refine ⟨readRequest_eq_self (isSettled_readRequest h), fun r' hsame g => ?_⟩
  rw [generate, generate, render, render, attempt_agree (agree_of_same hsame g)]

/-- Data in forms that are not kept: the method in small letters, an option given twice, headers as a
    mapping. -/
def lenientData : Value :=
  .map [(.text "method", .text " get "), (.text "path", .text "/me"),
    (.text "custom_query_options", .list [.text "b", .text "a", .text "b"]),
    (.text "modifiers", .map mixedData), (.text "headers", .map [(.text "Prefer", .text "x")])]

/-- The description that is read from them. -/
def lenientRequest : Request where
  method := "GET"
  path := "/me"
  segments := []
  apiVersion := "v1.0"
  queryString := []
  customOptions := ["b", "a"]
  modifiers := [.many .filter ["1"], .one .top (.int 5), .many .select ["id", "name"]]
  headers := [("Prefer", "x")]
  body := none
  variableName := "res"

theorem readRequest_serialized_lenient :
    readRequest lenientData = .ok lenientRequest ∧
      readRequest lenientRequest.serialized = .ok lenientRequest ∧
      ∀ g, generate g lenientRequest =
        generate g { lenientRequest with customOptions := ["a", "b"],
                                         modifiers := lenientRequest.modifiers.reverse } :=
  have hread : readRequest lenientData = .ok lenientRequest := by decide
  have hboth := readRequest_serialized hread
  ⟨hread, hboth.1, hboth.2 _ (by decide)⟩

end CallSnippets
