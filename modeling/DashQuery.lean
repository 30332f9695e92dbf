import DashQuery.Main
import DashQuery.Proofs.Binding.Slots
import DashQuery.Proofs.Compile.Scope
import DashQuery.Proofs.Lexing.References
import DashQuery.Proofs.Filter.Shown
import DashQuery.Proofs.Filter.Grammar
import DashQuery.Proofs.Filter.Meaning
import DashQuery.Proofs.Statement.Words
import DashQuery.Proofs.Expression.Grammar
import DashQuery.Proofs.Statement.Names
import DashQuery.Proofs.Statement.Vocabulary
import DashQuery.Proofs.Statement.Binding
import DashQuery.Proofs.Statement.Shape
import DashQuery.Proofs.Statement.Values
import DashQuery.Proofs.Facet.Compile
import DashQuery.Proofs.Facet.Rows
import DashQuery.Proofs.Statement.Trusted
import DashQuery.Proofs.Compile.Declared
import DashQuery.Proofs.Statement.References
import DashQuery.Proofs.Statement.Ambiguity
import DashQuery.Proofs.Statement.ResultNames
import DashQuery.Proofs.Ordered
import DashQuery.Proofs.Failure
import DashQuery.Proofs.Filter.Checks
import DashQuery.Proofs.Compile.Checks
import DashQuery.Proofs.Statement.Relaxed
import DashQuery.Proofs.Facet.Run
import DashQuery.Proofs.Json.RoundTrip
import DashQuery.Proofs.Filter.Acceptance
import DashQuery.Proofs.Filter.Removal
import DashQuery.Proofs.Facet.OwnColumn
import DashQuery.Proofs.Statement.JoinScope
import DashQuery.Proofs.Expression.Nesting
import DashQuery.Proofs.Expression.Units
import DashQuery.Proofs.Expression.Calls
import DashQuery.Proofs.Expression.TypeWords
import DashQuery.Proofs.Statement.Entries
import DashQuery.Proofs.Statement.Spelling
import DashQuery.Proofs.Statement.Pagination
import DashQuery.Proofs.Catalog.Affinity
import DashQuery.Proofs.Storage.Introspection
import DashQuery.Proofs.Lexing.Spans
import DashQuery.Proofs.Binding.Pieces
import DashQuery.Proofs.Console.FacetCommand
