import CallSnippets.Proofs.Grammar.JavaScript
import CallSnippets.Proofs.Snippet.Outcome
import CallSnippets.Proofs.Text.Lower
import Mathlib.Data.List.Forall2

/-!
# Headers that are written

The calls for headers stand in the order of the headers, one for each header that is not left out. A header
is left out if its name in lower case is an entry of the grammar. The entry itself is taken as it stands, so
one with capital letters leaves out no header at all, not even one that is written like it.

Lower case is the same a second time. So the entries that matter are those in lower case, and a name that
is left out is that of such an entry but for the case of letters.

## Main definitions

* `WritesHeader`: The call for a header.
* `IsWritten`: A header is none of those that are left out.

## Theorems

* `concatenate_eq_ok`: When texts are put one after the other.
* `skips_iff`, `shownHeaders_eq`: The headers that are left out, and those that are written.
* `headerSection_eq_ok`: What the calls for headers are.
* `headerSection_capital`: A header that is written although only the case of its name tells it from an entry.
-/

namespace CallSnippets

variable {g : Grammar} {r : Request} {t name : Text}

/-- The texts made from items are put one after the other if each of them can be made. -/
theorem concatenate_eq_ok {α : Type} {make : α → Except Fault Text} {items : List α} :
    concatenate make items = .ok t ↔
      ∃ texts, List.Forall₂ (fun a text => make a = .ok text) items texts ∧ t = texts.flatten := by
  -- The texts are made one after the other, and the first that cannot be made ends it.
  induction items generalizing t with
  | nil =>
      simp only [concatenate, Except.ok.injEq, List.forall₂_nil_left_iff, exists_eq_left,
        List.flatten_nil]
      exact eq_comm
  | cons a rest ih =>
      rw [concatenate, bind_eq_ok]
      constructor
      · rintro ⟨first, hfirst, h⟩
        rcases bind_eq_ok.mp h with ⟨more, hmore, hmade⟩
        rcases ih.mp hmore with ⟨texts, htexts, rfl⟩
        cases hmade
        exact ⟨first :: texts, .cons hfirst htexts, rfl⟩
      · rintro ⟨texts, htexts, rfl⟩
        cases htexts with
        | cons hfirst hrest =>
            rename_i first more
            exact ⟨first, hfirst, bind_eq_ok.mpr ⟨more.flatten, ih.mpr ⟨more, hrest, rfl⟩, rfl⟩⟩

/-- A name is left out if it is that of an entry in lower case, but for the case of letters. -/
theorem skips_iff : g.skips name = true ↔
    ∃ entry ∈ g.skippedHeaders, Text.lower entry = entry ∧ Text.lower name = Text.lower entry := by
  rw [Grammar.skips, List.contains_iff_mem]
  constructor
  · intro h
    have hstays : Text.lower (Text.lower name) = Text.lower name := Text.lower_lower name
    exact ⟨Text.lower name, h, hstays, hstays.symm⟩
  · rintro ⟨entry, hentry, hstays, hsame⟩
    rw [hsame, hstays]
    exact hentry

/-- The header differs in its name, and not only in the case of letters, from each entry of the grammar that
    is in lower case. -/
def IsWritten (g : Grammar) (header : Text × Text) : Prop :=
  ∀ entry ∈ g.skippedHeaders, Text.lower entry = entry → Text.lower header.1 ≠ Text.lower entry

instance (g : Grammar) : DecidablePred (IsWritten g) := fun header =>
  inferInstanceAs (Decidable (∀ entry ∈ g.skippedHeaders, Text.lower entry = entry →
    Text.lower header.1 ≠ Text.lower entry))

theorem shownHeaders_eq (g : Grammar) (r : Request) :
    shownHeaders g r = r.headers.filter fun header => IsWritten g header := by
  refine List.filter_congr fun header _ => ?_
  rw [Bool.eq_iff_iff, Bool.not_eq_true', Bool.eq_false_iff, ne_eq, skips_iff, decide_eq_true_eq]
  simp only [IsWritten, not_exists, not_and, ne_eq]

/-- The call for a header is the template for headers, filled in with the name and the value, both with
    their quotation marks escaped. -/
def WritesHeader (g : Grammar) (header : Text × Text) (call : Text) : Prop :=
  Template.fill g.headerTemplate (Template.byPosition [g.escape header.1, g.escape header.2]) = .ok call

/-- The calls for headers are those for the headers that are not left out, in the order of the headers. They
    are made if each of them can be. -/
theorem headerSection_eq_ok : headerSection g r = .ok t ↔
    ∃ calls, List.Forall₂ (WritesHeader g) (r.headers.filter fun header => IsWritten g header) calls ∧
      t = calls.flatten := by
  have hcall (header : Text × Text) (call : Text) :
      headerCall g header = .ok call ↔ WritesHeader g header call := mapError_eq_ok
  simp only [headerSection, concatenate_eq_ok, shownHeaders_eq, hcall]

/-- JavaScript with an entry in capital letters among the headers that are left out. -/
def capitalEntry : Grammar :=
  { javaScript with skippedHeaders := ["Host"] }

/-- A request with this header. -/
def hosted : Request where
  method := "GET"
  path := "/me"
  segments := []
  apiVersion := "v1.0"
  queryString := []
  customOptions := []
  modifiers := []
  headers := [("Host", "example.org")]
  body := none
  variableName := "res"

/-- The grammar is complete, and no header of the request differs from every entry but for the case of
    letters, yet the header is written. -/
theorem headerSection_capital : capitalEntry.complete = .ok capitalEntry ∧
    (hosted.headers.filter fun header =>
      ∀ entry ∈ capitalEntry.skippedHeaders, Text.lower header.1 ≠ Text.lower entry) = [] ∧
    headerSection capitalEntry hosted = .ok "\n\t.header('Host','example.org')" := by
  refine ⟨complete_eq_ok.mpr ⟨by decide +kernel, by decide +kernel, rfl⟩, by decide +kernel, ?_⟩
  -- Both templates and both escapes are those of JavaScript.
  have hcall : headerCall capitalEntry ("Host", "example.org") =
      .ok "\n\t.header('Host','example.org')" := by
    have hfill := JavaScript.fill_header (javaScript.escape "Host") (javaScript.escape "example.org")
    have hmade : headerCall javaScript ("Host", "example.org") = headerCall capitalEntry _ := rfl
    rw [← hmade, headerCall, fillOrFault, hfill]
    decide +kernel
  have hshown : shownHeaders capitalEntry hosted = hosted.headers := by decide +kernel
  rw [headerSection, hshown]
  exact concatenate_eq_ok.mpr ⟨[_], .cons hcall .nil, rfl⟩

end CallSnippets
