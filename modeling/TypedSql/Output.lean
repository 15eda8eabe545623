import TypedSql.Scope
import TypedSql.Statement.Check

/-!
# Result columns

The columns that a statement answers with. A query has the columns of its left-most select; other
statements answer only with what they return. A select item without a rule has no column.
-/

namespace TypedSql

namespace Output

def starColumns (tables : List SourceTable) (star : StarRef) : Except Error (List TypedColumn) :=
  return (← starTables tables star.qualifier).flatMap fun t =>
    if star.embed then t.columns.map ({ · with embed := some t.rel }) else t.columns

def coalesceColumn (tables : List SourceTable) (args : List Expr) : Except Error TypedColumn :=
  match args.findSome? Expr.column? with
  | some path => return { (← resolveColumn tables path).2 with notNull := true }
  | none => pure (.untyped "coalesce")

def callColumn (catalog : Catalog) (tables : List SourceTable) (c : Call) (args : List Expr) :
    Except Error TypedColumn :=
  if c.schema.isEmpty && Text.eqIgnoreCase c.name.toList "coalesce".toList then coalesceColumn tables args
  else
    match catalog.resolve c with
    | .ok f => pure (.ofType c.name f.returns)
    | .error _ => pure { name := c.name, dataType := "bigint", notNull := false }

/-- The cast of a plain column has the name of the column, qualifier and all. -/
def castColumn (e : Expr) (type : TypeName) : TypedColumn :=
  .ofType ((e.column?.map ("_".intercalate ·)).getD "") type

def operatorColumns (op : Operator) : List TypedColumn :=
  if op.isComparison then [{ name := "", dataType := "bool", notNull := true }]
  else if op.isArithmetic then [{ name := "", dataType := "int", notNull := true }]
  else []

def exprColumns (catalog : Catalog) (tables : List SourceTable) :
    Expr → Except Error (List TypedColumn)
  | .star s => starColumns tables s
  | .column path => return [(← resolveColumn tables path).2]
  | .call c args => return [← callColumn catalog tables c args]
  | .binary _ op _ => pure (operatorColumns op)
  | .cast e type => pure [castColumn e type]
  | .exist .. => pure [{ name := "exists", dataType := "bool", notNull := true }]
  | .subquery _ | .inQuery .. => pure [.untyped "exists"]
  | .choose _ _ _ (some (.cast e type)) => pure [castColumn e type]
  | _ => pure []

def targetColumns (catalog : Catalog) (tables : List SourceTable) (t : Target) :
    Except Error (List TypedColumn) := do
  let columns ← exprColumns catalog tables t.value
  return match t.name with
    | some name => columns.map (·.rename name)
    | none => columns

def columns (catalog : Catalog) (tables : List SourceTable) (targets : List Target) :
    Except Error (List TypedColumn) :=
  return (← targets.mapM (targetColumns catalog tables)).flatten

end Output

namespace Scope

/-- A named query takes the names that its column list gives, as far as the list goes. -/
def nameColumns (rel : QualifiedName) : List String → List TypedColumn → List TypedColumn
  | name :: names, c :: cs => { c with name, table := some rel } :: nameColumns rel names cs
  | [], cs => cs.map ({ · with table := some rel })
  | _, [] => []

def insertCte (scope : Scope) (name : String) (names : List String) (columns : List TypedColumn) :
    Scope :=
  let rel : QualifiedName := .ofName name
  { scope with ctes := scope.ctes.insert name { name, rel, columns := nameColumns rel names columns } }

mutual

def columns (scope : Scope) : Query → Except Error (List TypedColumn)
  | ⟨ctes, body, _, _, _⟩ => do
    let scope ← scope.addCtes ctes
    match body.leftmost? with
    | some s => Output.columns scope.catalog (← scope.tables s.sources) s.targets
    | none => pure []

def addCtes (scope : Scope) : List Cte → Except Error Scope
  | [] => pure scope
  | c :: cs => do
    let scope ← scope.addCte c
    scope.addCtes cs

def addCte (scope : Scope) : Cte → Except Error Scope
  | ⟨name, names, query⟩ => return scope.insertCte name names (← scope.columns query)

end

def statementColumns (scope : Scope) : Statement → Except Error (List TypedColumn)
  | .select q => scope.columns q
  | .insert i => do
    Output.columns scope.catalog [← scope.table i.relation] i.returning
  | .update u => do
    Output.columns scope.catalog (← scope.targetTables u.relation u.sources) u.returning
  | .delete d => do
    Output.columns scope.catalog (← scope.targetTables d.relation d.sources) d.returning
  | .truncate _ => pure []
  | s => throw (.unsupportedStatementKind s.kind)

end Scope

end TypedSql
