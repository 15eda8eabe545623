import TypedSql.Catalog.Basic
import TypedSql.SourceTable

/-!
# Scopes

What the names of tables mean at a place of a statement: the catalog, and the named queries in front of
it. A named query hides the table of its name.
-/

namespace TypedSql

structure Scope where
  catalog : Catalog
  ctes : Dict SourceTable := .empty
  deriving Repr, DecidableEq

namespace Scope

def table (scope : Scope) (r : RangeVar) : Except Error SourceTable :=
  let cte? := if r.relation.schema.isEmpty then scope.ctes.get? r.relation.name else none
  match cte? with
  | some t => pure { t with name := r.visibleName }
  | none => return .ofTable r.visibleName (← scope.catalog.table r.relation)

def join (kind : JoinKind) (left right : List SourceTable) : List SourceTable :=
  match kind with
  | .inner => left ++ right
  | .left => left ++ right.map SourceTable.nullable
  | .right => left.map SourceTable.nullable ++ right
  | .full => left.map SourceTable.nullable ++ right.map SourceTable.nullable

/-- Joins the last tables of a list: those of the left side begin at index `start`, those of the right
side at index `split`. -/
def joinFrom (kind : JoinKind) (start split : Nat) (found : List SourceTable) : List SourceTable :=
  let (before, joined) := found.splitAt start
  let (left, right) := joined.splitAt (split - start)
  before ++ join kind left right

def collect (scope : Scope) (found : List SourceTable) : FromItem → Except Error (List SourceTable)
  | .range r => return found ++ [← scope.table r]
  | .join kind left right _ => do
    let withLeft ← scope.collect found left
    let withBoth ← scope.collect withLeft right
    return joinFrom kind found.length withLeft.length withBoth
  | item => throw (.unsupported s!"{item.kind} in FROM clause")

def tables (scope : Scope) (items : List FromItem) : Except Error (List SourceTable) :=
  items.foldlM scope.collect []

/-- The tables that the left-most select of a query reads. -/
def queryTables (scope : Scope) (q : Query) : Except Error (List SourceTable) :=
  match q.leftmost? with
  | some s => scope.tables s.sources
  | none => pure []

def targetTables (scope : Scope) (target : RangeVar) (sources : List FromItem) :
    Except Error (List SourceTable) :=
  return (← scope.table target) :: (← scope.tables sources)

end Scope

end TypedSql
