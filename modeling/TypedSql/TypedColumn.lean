import TypedSql.Catalog.Table

/-!
# Typed columns

A column of a result, or what is known of a parameter: a name, a type, and whether it can be null.
-/

namespace TypedSql

def unknownType : String := "any"

structure TypedColumn where
  name : String
  dataType : String
  notNull : Bool
  isArray : Bool := false
  dims : Nat := 0
  table : Option QualifiedName := none
  isNamed : Bool := false
  isSlice : Bool := false
  embed : Option QualifiedName := none
  deriving Repr, DecidableEq

namespace TypedColumn

def untyped (name : String) : TypedColumn :=
  { name, dataType := unknownType, notNull := false }

def ofType (name : String) (type : TypeName) : TypedColumn :=
  { name, dataType := type.dataType, notNull := true, isArray := type.isArray, dims := type.dims }

def ofColumn (c : Column) : TypedColumn :=
  { name := c.name
    dataType := c.dataType
    notNull := c.notNull
    isArray := c.isArray
    dims := c.dims
    table := some c.table }

def isUntyped (c : TypedColumn) : Bool :=
  c.dataType == unknownType

def rename (c : TypedColumn) (name : String) : TypedColumn :=
  { c with name }

end TypedColumn

structure TypedParam where
  number : Nat
  column : TypedColumn
  deriving Repr, DecidableEq

end TypedSql
