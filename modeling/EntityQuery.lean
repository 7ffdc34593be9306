import EntityQuery.Backend.Basic
import EntityQuery.Backend.Error
import EntityQuery.Backend.Memory
import EntityQuery.Backend.Script
import EntityQuery.Calendar.Date
import EntityQuery.Config
import EntityQuery.Demo
import EntityQuery.Entity
import EntityQuery.Error
import EntityQuery.Evaluation.Expr
import EntityQuery.Evaluation.Pattern
import EntityQuery.Evaluation.Scope
import EntityQuery.Execution.Mutation
import EntityQuery.Execution.Select
import EntityQuery.Execution.Sorting
import EntityQuery.Files
import EntityQuery.Json.Fault
import EntityQuery.Json.Number
import EntityQuery.Json.Reader
import EntityQuery.Json.Text
import EntityQuery.Main
import EntityQuery.Naming
import EntityQuery.Number.Double
import EntityQuery.Number.Rounding
import EntityQuery.Number.Scientific
import EntityQuery.Number.Shortest
import EntityQuery.Proofs.Evaluation.Meaning
import EntityQuery.Proofs.Evaluation.Substring
import EntityQuery.Proofs.Execution.Atomicity
import EntityQuery.Proofs.Execution.Joining
import EntityQuery.Proofs.Execution.Ordering
import EntityQuery.Proofs.Execution.SortedRows
import EntityQuery.Proofs.Request.BindingOrder
import EntityQuery.Proofs.Request.Clauses
import EntityQuery.Proofs.Request.Compiling
import EntityQuery.Proofs.Request.Handles
import EntityQuery.Proofs.Request.Image
import EntityQuery.Proofs.Request.ReadBack
import EntityQuery.Proofs.Request.Selecting
import EntityQuery.Proofs.Request.Writing
import EntityQuery.Proofs.Session.Binding
import EntityQuery.Proofs.Session.Cells
import EntityQuery.Proofs.Session.Interleaving
import EntityQuery.Proofs.Session.Making
import EntityQuery.Proofs.Session.Moving
import EntityQuery.Proofs.Session.Reading
import EntityQuery.Proofs.Session.Running
import EntityQuery.Proofs.Session.SelectMeaning
import EntityQuery.Proofs.Sql.Lexing
import EntityQuery.Proofs.Sql.Names
import EntityQuery.Proofs.Sql.Parameters
import EntityQuery.Proofs.Sql.Reading
import EntityQuery.Proofs.Stateful
import EntityQuery.Proofs.Storage.EntityTables
import EntityQuery.Request.Accessor
import EntityQuery.Request.Binding
import EntityQuery.Request.Constraint
import EntityQuery.Request.Mutation
import EntityQuery.Request.Predicate
import EntityQuery.Request.Select
import EntityQuery.Session.Builder
import EntityQuery.Session.Cursor
import EntityQuery.Session.Query
import EntityQuery.Session.Reading
import EntityQuery.Session.Record
import EntityQuery.Session.Request
import EntityQuery.Session.Store
import EntityQuery.Sql.Lexer
import EntityQuery.Sql.Numeral
import EntityQuery.Sql.Parser
import EntityQuery.Sql.Statement
import EntityQuery.Sql.Token
import EntityQuery.Storage.ColumnType
import EntityQuery.Storage.Database
import EntityQuery.Storage.Table
import EntityQuery.Text.Alphabetic
import EntityQuery.Text.Blank
import EntityQuery.Text.Fold
import EntityQuery.Text.Invisible
import EntityQuery.Text.LetterCase
import EntityQuery.Text.Quoted
import EntityQuery.Text.Stride
import EntityQuery.Text.Uppercased
import EntityQuery.Value.Basic
import EntityQuery.Value.Order
import EntityQuery.Proofs.Session.SortedQueries
import EntityQuery.Proofs.Execution.TypedRows
import EntityQuery.Proofs.Evaluation.Shifting
import EntityQuery.Proofs.Execution.EntityRows
import EntityQuery.Proofs.Execution.EntityMutations
import EntityQuery.Proofs.Request.Mutating
import EntityQuery.Proofs.Session.EntityRequests
import EntityQuery.Proofs.Session.SameRows
import EntityQuery.Proofs.Session.Assigning
import EntityQuery.Proofs.Session.RoundTrip
import EntityQuery.Proofs.Storage.Reachable
import EntityQuery.Proofs.Evaluation.TypedConstraints
import EntityQuery.Proofs.Session.TypedRequests
import EntityQuery.Proofs.Session.QueryRuns
import EntityQuery.Proofs.Session.Lifecycle
import EntityQuery.Proofs.Sql.Statements
import EntityQuery.Proofs.Request.Rebinding
import EntityQuery.Proofs.Request.Lockstep
import EntityQuery.Proofs.Session.Twins
import EntityQuery.Proofs.Session.Repeating
import EntityQuery.Proofs.Session.FailedRuns
import EntityQuery.Proofs.Request.DerivedNames
import EntityQuery.Proofs.Request.Skipping
import EntityQuery.Proofs.Evaluation.Likeness
import EntityQuery.Proofs.Evaluation.ExprTypes
import EntityQuery.Proofs.Execution.SortKeys
import EntityQuery.Proofs.Execution.QueryRows
import EntityQuery.Proofs.Execution.UpdatedRows
import EntityQuery.Proofs.Session.Stable
import EntityQuery.Proofs.Session.OneShot
import EntityQuery.Proofs.Session.RowSets
import EntityQuery.Proofs.Session.WholeResults
import EntityQuery.Proofs.Session.Overriding
import EntityQuery.Proofs.Session.Inserting
import EntityQuery.Proofs.Session.BulkInserts
import EntityQuery.Proofs.Sql.Numbering
import EntityQuery.Proofs.Session.WholeDoubles
import EntityQuery.Proofs.Execution.MixedKeys
import EntityQuery.Proofs.Storage.Addressing
import EntityQuery.Proofs.Evaluation.Membership
import EntityQuery.Proofs.Storage.Spellings
import EntityQuery.Proofs.Execution.JoinedRows
import EntityQuery.Proofs.Execution.Qualifiers
import EntityQuery.Proofs.Execution.ResultWidths
import EntityQuery.Proofs.Session.BoundColumns
import EntityQuery.Proofs.Session.ResultColumns
import EntityQuery.Proofs.Sql.Spelling
import EntityQuery.Proofs.Request.KeptNames
