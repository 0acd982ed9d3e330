import CallSnippets.Files.Tree
import CallSnippets.Grammar.Record
import CallSnippets.Main
import CallSnippets.Proofs.Literal.Meaning
import CallSnippets.Proofs.Literal.Repeated
import CallSnippets.Proofs.Literal.Requoted
import CallSnippets.Proofs.Literal.Search
import CallSnippets.Proofs.Snippet.Documented
import CallSnippets.Proofs.Snippet.Flawless
import CallSnippets.Proofs.Snippet.Nested
import CallSnippets.Proofs.Snippet.Quoted
import CallSnippets.Proofs.Snippet.Statements
import CallSnippets.Proofs.Snippet.Path
import CallSnippets.Proofs.Snippet.Declared
import CallSnippets.Proofs.Snippet.Agreement
import CallSnippets.Proofs.Snippet.Pool
import CallSnippets.Proofs.Command.Append
import CallSnippets.Proofs.Command.Contained
import CallSnippets.Proofs.Command.Distinct
import CallSnippets.Proofs.Command.Settled
import CallSnippets.Proofs.Command.Single
import CallSnippets.Proofs.Command.Unnamed
import CallSnippets.Proofs.Request.Fields
import CallSnippets.Proofs.Request.Modifier
import CallSnippets.Proofs.Request.Name
import CallSnippets.Proofs.Text.Upper
import CallSnippets.Proofs.Request.Serialized
import CallSnippets.Proofs.Request.Source
import CallSnippets.Proofs.Command.Refused
import CallSnippets.Proofs.Settings.Loaded
import CallSnippets.Proofs.Request.Structured
import CallSnippets.Proofs.Snippet.Strings
import CallSnippets.Proofs.Text.Lower
import CallSnippets.Proofs.Snippet.Headers
import CallSnippets.Proofs.Snippet.Brackets
import CallSnippets.Proofs.Snippet.Reported
import CallSnippets.Proofs.Request.Identified
