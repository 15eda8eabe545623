import TypedSql.Error
import TypedSql.TypedColumn

/-!
# Tables that a query reads

A table as one query sees it, and how a column reference finds its column among such tables.
-/

namespace TypedSql

structure SourceTable where
  name : String
  rel : QualifiedName
  columns : List TypedColumn
  deriving Repr, DecidableEq

namespace SourceTable

def ofTable (name : String) (t : Table) : SourceTable :=
  { name, rel := t.rel, columns := t.columns.map TypedColumn.ofColumn }

def nullable (t : SourceTable) : SourceTable :=
  { t with columns := t.columns.map ({ · with notNull := false }) }

def isNamedBy (t : SourceTable) : List String → Bool
  | [_] => true
  | [table, _] => table == t.name
  | [schema, table, _] => table == t.name && schema == t.rel.schema
  | _ => false

def column? (t : SourceTable) (name : String) : Option TypedColumn :=
  t.columns.find? (·.name == name)

def reach? (path : List String) (t : SourceTable) : Option (SourceTable × TypedColumn) :=
  if t.isNamedBy path then (t.column? (path.getLastD "")).map (t, ·) else none

def targetColumn (t : SourceTable) (name : String) : Except Error TypedColumn :=
  match t.column? name with
  | some c => pure c
  | none => throw (.columnNotFound t.rel.name name)

end SourceTable

def findColumn (tables : List SourceTable) (path : List String) :
    Except Error (Option (SourceTable × TypedColumn)) :=
  if 3 < path.length then throw (.unsupported s!"column reference with {path.length} parts")
  else
    match tables.filterMap (SourceTable.reach? path) with
    | [] => pure none
    | [found] => pure (some found)
    | _ => throw (.columnAmbiguous (path.getLastD ""))

def resolveColumn (tables : List SourceTable) (path : List String) :
    Except Error (SourceTable × TypedColumn) := do
  match ← findColumn tables path with
  | some found => pure found
  | none => throw (.undefinedColumn (".".intercalate path))

def starTables (tables : List SourceTable) (qualifier : List String) :
    Except Error (List SourceTable) :=
  match qualifier.getLast? with
  | none => pure tables
  | some name =>
    let matched := tables.filter (·.name == name)
    if matched.isEmpty then throw (.relationNotFound (".".intercalate qualifier)) else pure matched

end TypedSql
