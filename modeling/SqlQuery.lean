import SqlQuery.Main
import SqlQuery.Proofs.Render.Draft
import SqlQuery.Proofs.Expression.Induction
import SqlQuery.Proofs.Render.Agreement
import SqlQuery.Proofs.Bindings.Automatic
import SqlQuery.Proofs.Render.Modes
import SqlQuery.Proofs.Query.Alike
import SqlQuery.Proofs.Query.Noninterference
import SqlQuery.Proofs.Query.Guarded
import SqlQuery.Proofs.Render.Tidy
import SqlQuery.Proofs.Text.Quoting
import SqlQuery.Proofs.Postgres.Segments
import SqlQuery.Proofs.Postgres.Exchange
import SqlQuery.Proofs.Text.Scanner
import SqlQuery.Proofs.Dialect.Lexis
import SqlQuery.Proofs.Query.Literals
import SqlQuery.Proofs.Query.Core
import SqlQuery.Proofs.Query.Runs
import SqlQuery.Proofs.Expression.Regrouping
import SqlQuery.Proofs.Expression.Reader
import SqlQuery.Proofs.Expression.Unambiguous
import SqlQuery.Proofs.Json.Lexing
import SqlQuery.Proofs.Number.Integers
import SqlQuery.Proofs.Number.Exact
import SqlQuery.Proofs.Number.Rounding
import SqlQuery.Proofs.Number.Numerals
import SqlQuery.Proofs.Number.Shortest
import SqlQuery.Proofs.Json.RoundTrip
import SqlQuery.Proofs.Json.Records
import SqlQuery.Proofs.Expression.RoundTrip
import SqlQuery.Proofs.Config.RoundTrip
import SqlQuery.Proofs.Data.Dictionary
import SqlQuery.Proofs.Render.Actions
import SqlQuery.Proofs.Query.Failure
import SqlQuery.Proofs.Query.Dialects
import SqlQuery.Proofs.CommandLine.Agreement
import SqlQuery.Proofs.Query.Typed
import SqlQuery.Proofs.Postgres.Parameters
import SqlQuery.Proofs.Query.Requests
import SqlQuery.Proofs.Query.Windows
import SqlQuery.Proofs.CommandLine.Windows
import SqlQuery.Proofs.Postgres.Segmentation
import SqlQuery.Proofs.Postgres.Positions
import SqlQuery.Proofs.Text.Like
import SqlQuery.Proofs.Render.Markers
import SqlQuery.Proofs.Expression.LikeTests
import SqlQuery.Proofs.Bindings.Freshness
import SqlQuery.Proofs.Render.Effects
import SqlQuery.Proofs.Query.Refusals
import SqlQuery.Proofs.Postgres.KeywordValues
import SqlQuery.Proofs.Render.Leaves
import SqlQuery.Proofs.Render.Shown
import SqlQuery.Proofs.Query.Grouping
import SqlQuery.Proofs.Dialect.Identifiers
import SqlQuery.Proofs.Dialect.SelectLists
import SqlQuery.Proofs.Dialect.Quoting
import SqlQuery.Proofs.Dialect.Paging
import SqlQuery.Proofs.Data.Traversal
import SqlQuery.Proofs.Query.Counting
import SqlQuery.Proofs.Database.Rows
import SqlQuery.Proofs.Postgres.Cells
import SqlQuery.Proofs.Expression.MatchModes
import SqlQuery.Proofs.Number.PlainTexts
import SqlQuery.Proofs.Render.InlinedValues
