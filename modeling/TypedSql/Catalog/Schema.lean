import TypedSql.Catalog.Function
import TypedSql.Catalog.Table

/-!
# Schemas

A schema holds tables, types and functions. Every table has a row type of its name, so tables and types
share their names.
-/

namespace TypedSql

inductive TypeKind where
  | enum (labels : List String)
  | composite
  deriving Repr, DecidableEq

structure UserType where
  name : String
  kind : TypeKind
  comment : Option String := none
  deriving Repr, DecidableEq

structure Schema where
  name : String
  comment : Option String := none
  tables : Dict Table := .empty
  types : Dict UserType := .empty
  functions : Functions := .empty
  deriving Repr, DecidableEq

namespace Schema

def table (s : Schema) (name : String) : Except Error Table :=
  match s.tables.get? name with
  | some t => pure t
  | none => throw (.relationNotFound name)

def type (s : Schema) (name : String) : Except Error UserType :=
  match s.types.get? name with
  | some t => pure t
  | none => throw (.typeNotFound name)

def checkTableFree (s : Schema) (name : String) : Except Error Unit :=
  if s.tables.contains name then throw (.relationAlreadyExists name)
  else if s.types.contains name then throw (.typeAlreadyExists name)
  else pure ()

def checkTypeFree (s : Schema) (name : String) : Except Error Unit :=
  if s.tables.contains name || s.types.contains name then throw (.typeAlreadyExists name) else pure ()

def insertTable (s : Schema) (t : Table) : Except Error Schema := do
  s.checkTableFree t.rel.name
  return { s with tables := s.tables.insert t.rel.name t }

def removeTable (s : Schema) (name : String) : Except Error Schema := do
  let _ ← s.table name
  return { s with tables := s.tables.erase name }

def modifyTable (s : Schema) (name : String) (f : Table → Except Error Table) :
    Except Error Schema := do
  let t ← f (← s.table name)
  return { s with tables := s.tables.insert name t }

def insertType (s : Schema) (t : UserType) : Except Error Schema := do
  s.checkTypeFree t.name
  return { s with types := s.types.insert t.name t }

def removeType (s : Schema) (name : String) : Except Error Schema := do
  let _ ← s.type name
  return { s with types := s.types.erase name }

def commentType (s : Schema) (name : String) (comment : Option String) : Except Error Schema := do
  let t ← s.type name
  return { s with types := s.types.insert name { t with comment } }

def reserveFunctions (s : Schema) (name : String) : Schema :=
  { s with functions := s.functions.reserve name }

def addFunction (s : Schema) (f : Function) (replace : Bool) : Except Error Schema :=
  return { s with functions := ← s.functions.add f replace }

def removeFunction (s : Schema) (name : String) (types : Option (List TypeName)) :
    Except Error Schema :=
  return { s with functions := ← s.functions.remove name types }

end Schema

end TypedSql
