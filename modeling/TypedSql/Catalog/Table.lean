import TypedSql.Definition
import TypedSql.Error

/-!
# Tables of the catalog

A table has a qualified name and columns in the order of their declaration. Every column knows the table
that it belongs to.
-/

namespace TypedSql

structure Column where
  name : String
  dataType : String
  notNull : Bool
  isArray : Bool
  dims : Nat
  comment : Option String
  table : QualifiedName
  deriving Repr, DecidableEq

namespace Column

def ofDef (table : QualifiedName) (d : ColumnDef) : Column :=
  { name := d.name
    dataType := d.type.dataType
    notNull := d.notNull
    isArray := d.type.isArray
    dims := d.type.dims
    comment := d.comment
    table }

def setType (c : Column) (t : TypeName) : Column :=
  { c with dataType := t.dataType, isArray := t.isArray, dims := t.dims }

end Column

structure Table where
  rel : QualifiedName
  columns : List Column
  comment : Option String := none
  deriving Repr, DecidableEq

namespace Table

def ofDefs (rel : QualifiedName) (columns : List ColumnDef) : Table :=
  { rel, columns := columns.map (Column.ofDef rel) }

def column? (t : Table) (name : String) : Option Column :=
  t.columns.find? (·.name == name)

def hasColumn (t : Table) (name : String) : Bool :=
  t.columns.any (·.name == name)

def columnNames (t : Table) : List String :=
  t.columns.map Column.name

def repeatedColumn? : List Column → List String → Option String
  | [], _ => none
  | c :: columns, seen =>
    if seen.contains c.name then some c.name else repeatedColumn? columns (c.name :: seen)

def setName (t : Table) (rel : QualifiedName) : Table :=
  { t with rel, columns := t.columns.map ({ · with table := rel }) }

def checkColumn (t : Table) (name : String) : Except Error Unit :=
  if t.hasColumn name then pure () else throw (.columnNotFound t.rel.name name)

def checkColumnFree (t : Table) (name : String) : Except Error Unit :=
  if t.hasColumn name then throw (.columnAlreadyExists t.rel.name name) else pure ()

def addColumn (t : Table) (d : ColumnDef) : Except Error Table := do
  t.checkColumnFree d.name
  return { t with columns := t.columns ++ [Column.ofDef t.rel d] }

def dropColumn (t : Table) (name : String) : Except Error Table := do
  t.checkColumn name
  return { t with columns := t.columns.eraseP (·.name == name) }

def modifyColumn (t : Table) (name : String) (f : Column → Column) : Except Error Table := do
  t.checkColumn name
  return { t with columns := t.columns.modify (t.columns.findIdx (·.name == name)) f }

/-- A column keeps its place when its name changes. The new name must be another than the old one. -/
def renameColumn (t : Table) (old new : String) : Except Error Table := do
  t.checkColumn old
  t.checkColumnFree new
  t.modifyColumn old ({ · with name := new })

end Table

end TypedSql
