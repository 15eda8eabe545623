import TypedSql.Catalog.Basic
import TypedSql.Catalog.Change
import TypedSql.Catalog.Function
import TypedSql.Catalog.Replay
import TypedSql.Catalog.Schema
import TypedSql.Catalog.Table
import TypedSql.Definition
import TypedSql.Dict
import TypedSql.Edit
import TypedSql.Error
import TypedSql.Expansion
import TypedSql.Golden.Rate
import TypedSql.Golden.Record
import TypedSql.Golden.Run
import TypedSql.Golden.Suite
import TypedSql.Ident
import TypedSql.Inference
import TypedSql.Lower
import TypedSql.Main
import TypedSql.Name
import TypedSql.Operator
import TypedSql.Output
import TypedSql.ParamSet
import TypedSql.Project
import TypedSql.Proofs.Catalog.AlterTable
import TypedSql.Proofs.Catalog.Atomic
import TypedSql.Proofs.Catalog.Call
import TypedSql.Proofs.Catalog.Drop
import TypedSql.Proofs.Catalog.Footprint
import TypedSql.Proofs.Catalog.Independent
import TypedSql.Proofs.Catalog.Outcome
import TypedSql.Proofs.Catalog.Overload
import TypedSql.Proofs.Catalog.Reachable
import TypedSql.Proofs.Catalog.Undo
import TypedSql.Proofs.Catalog.WellFormed
import TypedSql.Proofs.Dict
import TypedSql.Proofs.Edit
import TypedSql.Proofs.Expansion
import TypedSql.Proofs.Expansion.Embeds
import TypedSql.Proofs.Expansion.Faithful
import TypedSql.Proofs.Expansion.Located
import TypedSql.Proofs.Expansion.Lookups
import TypedSql.Proofs.Fallible
import TypedSql.Proofs.Golden.Folder
import TypedSql.Proofs.Golden.Record
import TypedSql.Proofs.Golden.Run
import TypedSql.Proofs.Ident
import TypedSql.Proofs.Inference.Frame
import TypedSql.Proofs.Inference.Gap
import TypedSql.Proofs.Inference.Inserted
import TypedSql.Proofs.Inference.Lookups
import TypedSql.Proofs.Inference.Occurrences
import TypedSql.Proofs.Inference.Parenthesised
import TypedSql.Proofs.Inference.Settled
import TypedSql.Proofs.Lower
import TypedSql.Proofs.Lower.ColumnName
import TypedSql.Proofs.ParamSet
import TypedSql.Proofs.QueryHeader
import TypedSql.Proofs.Reference
import TypedSql.Proofs.Scope
import TypedSql.Proofs.Scope.ColumnList
import TypedSql.Proofs.Scope.Joins
import TypedSql.Proofs.Scope.Origin
import TypedSql.Proofs.Script
import TypedSql.Proofs.Script.Alone
import TypedSql.Proofs.Script.Runs
import TypedSql.Proofs.Site
import TypedSql.Proofs.Site.Calls
import TypedSql.Proofs.Site.Order
import TypedSql.Proofs.Site.Segment
import TypedSql.Proofs.Site.Verbatim
import TypedSql.Proofs.SortByKey
import TypedSql.Proofs.SourceTable
import TypedSql.Proofs.SourceTable.Unique
import TypedSql.Proofs.Splice
import TypedSql.Proofs.Splice.Order
import TypedSql.Proofs.Sql.Quoted
import TypedSql.Proofs.Statement.Check
import TypedSql.Proofs.Statement.Numbering
import TypedSql.Proofs.Statement.Renumbered
import TypedSql.Proofs.Text
import TypedSql.Proofs.Text.Blank
import TypedSql.Proofs.Text.Lines
import TypedSql.Proofs.Text.Position
import TypedSql.Proofs.Text.Words
import TypedSql.Proofs.Token.Locality
import TypedSql.Proofs.Token.Reads
import TypedSql.Proofs.Token.Scan
import TypedSql.Proofs.Token.Tiling
import TypedSql.Proofs.TypedQuery.Calls
import TypedSql.Proofs.TypedQuery.Faults
import TypedSql.Proofs.TypedQuery.Origin
import TypedSql.Proofs.TypedQuery.Placeholders
import TypedSql.Proofs.TypedQuery.References
import TypedSql.Proofs.TypedQuery.Steps
import TypedSql.Proofs.TypedQuery.Unexpanded
import TypedSql.Proofs.Wildcard
import TypedSql.QueryHeader
import TypedSql.Scope
import TypedSql.Script
import TypedSql.Settings
import TypedSql.Site
import TypedSql.SourceTable
import TypedSql.Sql.Grammar.DataType
import TypedSql.Sql.Grammar.Definition
import TypedSql.Sql.Grammar.Expr
import TypedSql.Sql.Grammar.Query
import TypedSql.Sql.Grammar.Statement
import TypedSql.Sql.Grammar.Table
import TypedSql.Sql.Keyword
import TypedSql.Sql.Parser
import TypedSql.Sql.Render
import TypedSql.Sql.Tree
import TypedSql.Statement
import TypedSql.Statement.Check
import TypedSql.Statement.Numbering
import TypedSql.Statement.Visit
import TypedSql.Text.Alphabetic
import TypedSql.Text.Basic
import TypedSql.Text.Blank
import TypedSql.Text.Case
import TypedSql.Text.CaseRun
import TypedSql.Text.Cased
import TypedSql.Text.Hidden
import TypedSql.Text.Literal
import TypedSql.Text.Numeric
import TypedSql.Text.Position
import TypedSql.Text.Range
import TypedSql.Token
import TypedSql.Token.Lexer
import TypedSql.TypeName
import TypedSql.TypedColumn
import TypedSql.TypedQuery
