import CallSnippets.Grammar.Registry
import CallSnippets.Snippet.Remark

/-!
# Batches

Many requests in many languages. Every pair of a request and a language has its item: requests in
their order, and languages in theirs for each request. A pair that fails is an item like any other.
That all languages are known is found out before the first snippet is made.

## Main definitions

* `BatchItem`: The outcome of one pair.
* `batchItems`: The items for given grammars.
* `generateBatch`: The items for given languages.
* `batchRemarks`: What is told beside them.
-/

namespace CallSnippets

/-- The outcome of one request in one language. -/
structure BatchItem where
  /-- The name of the request. -/
  name : Text
  /-- The name of the language. -/
  language : Text
  /-- The ending of files in the language. -/
  fileExtension : Text
  /-- The snippet, or why there is none. -/
  result : Except SnippetFailure Text

/-- The failure of an item, if it failed. -/
def BatchItem.failure? (item : BatchItem) : Option SnippetFailure :=
  match item.result with
  | .ok _ => none
  | .error failure => some failure

/-- The item of a request in the language of a grammar. -/
def BatchItem.of (name : Text) (r : Request) (g : Grammar) : BatchItem :=
  ⟨name, g.name, g.fileExtension, (generate g r).unwrap⟩

/-- The items of requests in the languages of grammars. -/
def batchItems (requests : List (Text × Request)) (grammars : List Grammar) : List BatchItem :=
  requests.flatMap fun r => grammars.map fun g => BatchItem.of r.1 r.2 g

/-- The grammars of languages, or the refusal of the first that is not known. -/
def findGrammars : List Text → Except Refusal (List Grammar)
  | [] => .ok []
  | language :: rest => do
    let g ← findGrammar language
    let gs ← findGrammars rest
    return g :: gs

/-- The items of requests in languages. -/
def generateBatch (requests : List (Text × Request)) (languages : List Text) :
    Except Refusal (List BatchItem) :=
  (findGrammars languages).map (batchItems requests)

/-- The source of remarks on batches. -/
def batchSource : Text := "api_snippet_gen.generator.batch"

/-- The warning that an item failed. -/
def skippedRemark? (item : BatchItem) : Option Remark :=
  item.failure?.map fun failure =>
    ⟨.warning, batchSource,
      "Skipping " ++ item.name ++ " (" ++ item.language ++ "): " ++ failure.message⟩

/-- The remark on how many snippets were made. -/
def countRemark (items : List BatchItem) : Remark :=
  let made := items.filter fun item => item.failure?.isNone
  ⟨.info, batchSource,
    "Generated " ++ natText made.length ++ " of " ++ natText items.length ++ " snippets"⟩

/-- The remarks on the making of a batch. -/
def batchRemarks (requests : List (Text × Request)) (grammars : List Grammar) : List Remark :=
  let items := batchItems requests grammars
  (requests.flatMap fun r => grammars.flatMap fun g => renderRemarks g r.2) ++
    items.filterMap skippedRemark? ++ [countRemark items]

end CallSnippets
