import TypedSql.Expansion
import TypedSql.Inference
import TypedSql.Lower
import TypedSql.Statement.Numbering

/-!
# Typed queries

The analysis of one statement against a catalog: its result columns, its parameters, and its text with
parameters numbered and wildcards expanded.
-/

namespace TypedSql

inductive QueryKind where
  | select
  | insert
  | update
  | delete
  | truncate
  deriving Repr, DecidableEq

def Statement.queryKind : Statement → Except Error QueryKind
  | .select _ => pure .select
  | .insert _ => pure .insert
  | .update _ => pure .update
  | .delete _ => pure .delete
  | .truncate _ => pure .truncate
  | s => throw (.unsupportedStatementKind s.kind)

structure TypedQuery where
  kind : QueryKind
  columns : List TypedColumn
  params : List TypedParam
  insertInto : Option QualifiedName
  /-- The edits that turn the statement as it is written into `text`, by place. -/
  edits : List Edit
  text : Text
  deriving Repr, DecidableEq

namespace TypedQuery

def insertTarget? (catalog : Catalog) : Statement → Option QualifiedName
  | .insert i => some (catalog.qualify i.relation.relation)
  | _ => none

/-- Analyses a statement. The first fault decides, in the order of the steps. -/
def ofStatement (catalog : Catalog) (settings : Settings) (s : SourceStatement) :
    Except Error TypedQuery := do
  let kind ← s.statement.queryKind
  s.statement.check
  let numbered ← Numbered.ofStatement s.statement s.chunk.sites.named
  let scope : Scope := { catalog }
  let params ← scope.params numbered.statement numbered.params
  let columns ← scope.statementColumns numbered.statement
  let stars ← Expansion.statement (!settings.expandStars) scope numbered.statement
  let edits := Edit.sort (numbered.edits ++ stars)
  let text ← Edit.apply s.chunk.text edits
  return { kind, columns, params, insertInto := insertTarget? catalog numbered.statement, edits, text }

def ofChunk (catalog : Catalog) (settings : Settings) (c : Chunk) : Except Error TypedQuery := do
  ofStatement catalog settings (← SourceStatement.ofChunk c)

end TypedQuery

end TypedSql
