import TypedSql.Edit
import TypedSql.Ident
import TypedSql.Output

/-!
# Expansion of wildcards

The edits that put the columns of a wildcard in its place. They cover the select lists of a statement and
of its named queries, the rows of an insertion, and what a statement returns. Queries inside expressions
keep their wildcards.
-/

namespace TypedSql

namespace Expansion

def ident (name : String) : Text :=
  Ident.quote name.toList

def qualified (qualifier : List String) (column : String) : Text :=
  ['.'].intercalate ((qualifier ++ [column]).map ident)

def occurrences (tables : List SourceTable) (name : String) : Nat :=
  (tables.flatMap SourceTable.columns).countP (·.name == name)

/-- The columns of a wildcard without qualifier. A name that is not unique is qualified. -/
def bareItems (tables : List SourceTable) : List Text :=
  tables.flatMap fun t => t.columns.map fun c =>
    if 1 < occurrences tables c.name then qualified [t.name] c.name else ident c.name

def items (tables : List SourceTable) (star : StarRef) : Except Error (List Text) := do
  let matched ← starTables tables star.qualifier
  if star.qualifier.isEmpty then return bareItems matched
  else return matched.flatMap fun t => t.columns.map fun c => qualified star.qualifier c.name

def starEdit (tables : List SourceTable) (star : StarRef) : Except Error Edit := do
  match star.location with
  | none => throw (.internal (.starWithoutSite star.text))
  | some location => return { location, old := star.text, new := [',', ' '].intercalate (← items tables star) }

/-- The wildcards of a select list; of these only the embedded tables if `embedsOnly` holds. -/
def stars (embedsOnly : Bool) (targets : List Target) : List StarRef :=
  targets.filterMap fun t =>
    match t.value with
    | .star s => if embedsOnly && !s.embed then none else some s
    | _ => none

def targets (embedsOnly : Bool) (tables : List SourceTable) (ts : List Target) :
    Except Error (List Edit) :=
  (stars embedsOnly ts).mapM (starEdit tables)

mutual

def query (embedsOnly : Bool) (scope : Scope) : Query → Except Error (List Edit)
  | ⟨named, main, _, _, _⟩ => do
    let (inner, edits) ← ctes embedsOnly scope named
    return edits ++ (← body embedsOnly inner main)

def ctes (embedsOnly : Bool) (scope : Scope) : List Cte → Except Error (Scope × List Edit)
  | [] => pure (scope, [])
  | c :: cs => do
    let (inner, edits) ← cte embedsOnly scope c
    let (inner, more) ← ctes embedsOnly inner cs
    return (inner, edits ++ more)

def cte (embedsOnly : Bool) (scope : Scope) : Cte → Except Error (Scope × List Edit)
  | ⟨name, names, q⟩ => do
    let edits ← query embedsOnly scope q
    return (scope.insertCte name names (← scope.columns q), edits)

def body (embedsOnly : Bool) (scope : Scope) : Body → Except Error (List Edit)
  | .select s => do targets embedsOnly (← scope.tables s.sources) s.targets
  | .setOp _ left right => return (← body embedsOnly scope left) ++ (← body embedsOnly scope right)
  | .values _ => pure []
  | .query q => query embedsOnly scope q

end

def source (embedsOnly : Bool) (scope : Scope) : Option Query → Except Error (List Edit)
  | some q => query embedsOnly scope q
  | none => pure []

def statement (embedsOnly : Bool) (scope : Scope) : Statement → Except Error (List Edit)
  | .select q => query embedsOnly scope q
  | .insert i => do
    let edits ← source embedsOnly scope i.source
    return edits ++ (← targets embedsOnly [← scope.table i.relation] i.returning)
  | .update u => do
    targets embedsOnly (← scope.targetTables u.relation u.sources) u.returning
  | .delete d => do
    targets embedsOnly (← scope.targetTables d.relation d.sources) d.returning
  | _ => pure []

end Expansion

end TypedSql
