import CallSnippets.Proofs.Json.Closed
import CallSnippets.Proofs.Literal.Quoted
import CallSnippets.Proofs.Snippet.JavaScript

/-!
# The path between marks

The path of a request is put between single marks as it is, in the call that the snippet starts its
request with. Headers and modifiers have their marks escaped, but the path has not. So the string that
is read there is the path only if the path has no mark, no backslash and no end of a line. A mark in the
path is where the string ends, and the rest of the path is read as code.

A string ends at the first mark that no backslash takes with it, so there is one place where it ends,
whatever its escapes stand for.

## Main definitions

* `ReadsString`: What a string at the start of a text stands for, and what is behind it.
* `openingText`, `closingText`: What stands around the string with the path.

## Theorems

* `StringBody.stringText`, `stringText_unique`: A string ends in one place.
* `stringBody_self`: When a text stands for itself between marks.
* `readsString_upTo`: What is read of a text that has marks in it.
* `path_javaScript`: What is read of the path of a request.
* `path_javaScript_keyed`: A path with a mark is not what is read.
-/

namespace CallSnippets

theorem stringText_unique {mark : CodePoint} (hmark : mark ≠ backslash) {a b rest more : Text}
    (ha : StringText mark a) (hb : StringText mark b) (h : a ++ mark :: rest = b ++ mark :: more) :
    a = b ∧ rest = more := by
  -- The two go on in the same way as long as neither has come to its mark.
  induction ha generalizing b with
  | nil =>
      cases hb with
      | nil => exact ⟨rfl, (List.cons.inj h).2⟩
      | plain hne _ _ => exact absurd (List.cons.inj h).1.symm hne
      | escape _ => exact absurd (List.cons.inj h).1 hmark
  | plain hne hback _ ih =>
      cases hb with
      | nil => exact absurd (List.cons.inj h).1 hne
      | plain _ _ hb =>
          rcases List.cons.inj h with ⟨rfl, htail⟩
          rcases ih hb htail with ⟨rfl, hrest⟩
          exact ⟨rfl, hrest⟩
      | escape _ => exact absurd (List.cons.inj h).1 hback
  | escape _ ih =>
      cases hb with
      | nil => exact absurd (List.cons.inj h).1.symm hmark
      | plain _ hback _ => exact absurd (List.cons.inj h).1.symm hback
      | escape hb =>
          rcases List.cons.inj (List.cons.inj h).2 with ⟨rfl, htail⟩
          rcases ih hb htail with ⟨rfl, hrest⟩
          exact ⟨rfl, hrest⟩

namespace JavaScript

/-- A string at the start of the text stands for the units, and the rest is behind its mark. -/
def ReadsString (t : Text) (units : List Nat) (rest : Text) : Prop :=
  ∃ body, t = enclosed singleMark singleMark body ++ rest ∧ StringBody body units

/-! ## Strings -/

theorem stringText_hexNumber {digits : Text} {count n : Nat}
    (h : Text.hexNumber? count 0 digits = some (n, [])) : StringText singleMark digits := by
  rcases Json.hexNumber?_sound h with ⟨all, _, hhex, hdigits⟩
  rw [List.append_nil] at hdigits
  rw [hdigits]
  exact Json.stringText_hex (by decide) hhex

theorem Escape.stringText {t rest : Text} {units : List Nat} (h : Escape t rest units) :
    ∃ c more, t = c :: more ∧ StringText singleMark more := by
  -- The backslash takes one character with it, and what else there is of an escape stands for itself.
  cases h with
  | letter | other | zero | line => exact ⟨_, [], rfl, .nil⟩
  | hex hnumber | code hnumber => exact ⟨_, _, rfl, stringText_hexNumber hnumber⟩
  | point _ hnumber _ =>
      refine ⟨_, _, rfl, ?_⟩
      exact .plain (by decide) (by decide)
        ((stringText_hexNumber hnumber).append (.plain (by decide) (by decide) .nil))
  | lines => exact ⟨.char '\r', "\n", rfl, .plain (by decide) (by decide) .nil⟩

theorem StringBody.stringText {t : Text} {units : List Nat} (h : StringBody t units) :
    StringText singleMark t := by
  induction h with
  | nil => exact .nil
  | plain hmark hback _ _ _ ih => exact .plain hmark hback ih
  | escape hescape _ ih =>
      rcases hescape.stringText with ⟨c, more, rfl, hmore⟩
      exact .escape (hmore.append ih)

theorem units_of_stringBody {t : Text} {units : List Nat} (h : StringBody t units)
    (hback : backslash ∉ t) : units = Text.units t := by
  induction h with
  | nil => rfl
  | plain _ _ _ _ _ ih =>
      rw [units_cons, ih fun hmem => hback (List.mem_cons_of_mem _ hmem)]
  | escape _ _ _ => exact absurd (List.mem_cons_self ..) hback

/-- A text stands for itself between marks exactly if it is plain and has no mark. -/
theorem stringBody_self (t : Text) :
    StringBody t (Text.units t) ↔ singleMark ∉ t ∧ IsPlainText t := by
  constructor
  · intro h
    -- A string is longer than what it stands for by its marks, so there are none here.
    have hmark : singleMark ∉ t := by
      have hlength := h.length_units.1
      rw [← List.count_eq_zero]
      omega
    refine ⟨hmark, (stringBody_escapeSingle t).mp ?_⟩
    rw [escapeSingle_eq_self hmark]
    exact h
  · rintro ⟨hmark, hplain⟩
    have h := (stringBody_escapeSingle t).mpr hplain
    rwa [escapeSingle_eq_self hmark] at h

theorem readsString_self (t rest : Text) :
    ReadsString (enclosed singleMark singleMark t ++ rest) (Text.units t) rest ↔
      singleMark ∉ t ∧ IsPlainText t := by
  rw [← stringBody_self]
  constructor
  · rintro ⟨body, htext, hbody⟩
    rw [List.append_left_inj, enclosed, enclosed, List.append_left_inj, List.cons.injEq] at htext
    rw [← htext.2] at hbody
    exact hbody
  · intro h
    exact ⟨t, rfl, h⟩

/-- Of a text with marks, what is read is what stands before the first of them. -/
theorem readsString_upTo (first more : Text) {rest : Text} {units : List Nat} (hmark : singleMark ∉ first)
    (hplain : IsPlainText first) :
    ReadsString (singleMark :: (first ++ singleMark :: more)) units rest ↔
      units = Text.units first ∧ rest = more := by
  have hfirst : StringBody first (Text.units first) := (stringBody_self first).mpr ⟨hmark, hplain⟩
  constructor
  · rintro ⟨body, htext, hbody⟩
    rw [enclosed_append, List.cons.injEq] at htext
    rcases stringText_unique (by decide) hfirst.stringText hbody.stringText htext.2 with ⟨rfl, rfl⟩
    exact ⟨units_of_stringBody hbody fun hmem => (hplain backslash hmem).1 rfl, rfl⟩
  · rintro ⟨rfl, rfl⟩
    exact ⟨first, (enclosed_append ..).symm, hfirst⟩

/-! ## The path -/

/-- What stands before the line of the request. -/
def openingText (r : Request) : Text :=
  preambleText ++ if sendsBody r.method then declarationText r else []

/-- What stands behind the string with the path. -/
def closingText (r : Request) : Text :=
  ")" ++ (versionText r ++ callsText r)

theorem snippetText_path (r : Request) :
    snippetText r = openingText r ++ "let res = await client.api(" ++
      (enclosed singleMark singleMark (requestPath r) ++ closingText r) := by
  have hstart : ("let res = await client.api('" : Text) =
      "let res = await client.api(" ++ [singleMark] := by decide
  have hstop : ("')" : Text) = singleMark :: ")" := by decide
  simp only [snippetText, openingText, closingText, requestText, requestPath_eq, sendsBody_iff, hstart,
    hstop, enclosed, List.append_assoc, List.cons_append, List.nil_append]

/-- The path stands between marks in the snippet, and a string that stands for the path and ends behind
    it is read there exactly if the path is plain and has no mark. If it has one, the string ends there. -/
theorem path_javaScript {r : Request} {t : Text} (h : render javaScript r = .ok t) :
    ∃ argument, t = openingText r ++ "let res = await client.api(" ++ argument ∧
      (ReadsString argument (Text.units (requestPath r)) (closingText r) ↔
        singleMark ∉ requestPath r ∧ IsPlainText (requestPath r)) ∧
      ∀ first more, requestPath r = first ++ singleMark :: more → singleMark ∉ first →
        IsPlainText first → ∀ units rest, ReadsString argument units rest ↔
          units = Text.units first ∧ rest = more ++ singleMark :: closingText r := by
  rcases render_eq_ok.mp h with ⟨verb, hverb, _, hassemble⟩
  refine ⟨enclosed singleMark singleMark (requestPath r) ++ closingText r, ?_, readsString_self _ _, ?_⟩
  · rw [assemble_eq hverb hassemble, snippetText_path]
  · intro first more hpath hmark hplain units rest
    rw [hpath, enclosed_append, List.append_assoc, List.cons_append]
    exact readsString_upTo first _ hmark hplain

/-- A request that reads what a path leads to. -/
def reading (path : Text) : Request where
  method := "GET"
  path := path
  segments := []
  apiVersion := "v1.0"
  queryString := []
  customOptions := []
  modifiers := []
  headers := []
  body := none
  variableName := "res"

/-- A request whose query travels on a path without marks. -/
def readingMore : Request :=
  { reading "/me" with queryString := "?$top=1&debug=a\"b", customOptions := ["debug"] }

/-- The snippet of the request. -/
def readingMoreSnippet : { t : Text // render javaScript readingMore = .ok t } :=
  ⟨"const options = \x7b\n\tauthProvider,\n\x7d;\n\nconst client = Client.init(options);\n\n" ++
    "let res = await client.api('/me?$top=1&debug=a\"b')\n\t.get();",
    eq_ok_of_toOption (by decide +kernel)⟩

theorem path_javaScript_readingMore :
    ∃ argument, readingMoreSnippet.val =
        openingText readingMore ++ "let res = await client.api(" ++ argument ∧
      ReadsString argument (Text.units "/me?$top=1&debug=a\"b") ")\n\t.get();" := by
  rcases path_javaScript readingMoreSnippet.property with ⟨argument, htext, hreads, _⟩
  exact ⟨argument, htext, hreads.mpr (by decide)⟩

/-- The snippet of a request for an item by its key. -/
def keyedSnippet : { t : Text // render javaScript (reading "/users('a')") = .ok t } :=
  ⟨"const options = \x7b\n\tauthProvider,\n\x7d;\n\nconst client = Client.init(options);\n\n" ++
    "let res = await client.api('/users('a')')\n\t.get();",
    eq_ok_of_toOption (by decide +kernel)⟩

/-- The string ends at the mark before the key, so it does not stand for the path. -/
theorem path_javaScript_keyed :
    render javaScript (reading "/users('a')") = .ok keyedSnippet.val ∧
      keyedSnippet.val =
        preambleText ++ "let res = await client.api(" ++ "'/users('a')')\n\t.get();" ∧
      ¬ReadsString "'/users('a')')\n\t.get();" (Text.units "/users('a')") ")\n\t.get();" ∧
      ReadsString "'/users('a')')\n\t.get();" (Text.units "/users(") "a')')\n\t.get();" := by
  refine ⟨keyedSnippet.property, by decide +kernel, fun h => ?_, ?_⟩
  · have hself := readsString_self "/users('a')" ")\n\t.get();"
    exact absurd (hself.mp h).1 (by decide)
  · exact (readsString_upTo "/users(" "a')')\n\t.get();" (by decide) (by decide)).mpr ⟨rfl, rfl⟩

end JavaScript

end CallSnippets
