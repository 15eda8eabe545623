/-!
# Qualified names

The name of a table, type or function: a relation name with an optional schema and an optional
catalog. An empty part is an absent one.
-/

namespace TypedSql

structure QualifiedName where
  catalog : String := ""
  schema : String := ""
  name : String
  deriving Repr, DecidableEq

namespace QualifiedName

def ofName (name : String) : QualifiedName :=
  { name }

def ofSchema (schema name : String) : QualifiedName :=
  { schema, name }

def ofParts? : List String → Option QualifiedName
  | [name] => some { name }
  | [schema, name] => some { schema, name }
  | [catalog, schema, name] => some { catalog, schema, name }
  | _ => none

def schemaOr (n : QualifiedName) (fallback : String) : String :=
  if n.schema.isEmpty then fallback else n.schema

def toString (n : QualifiedName) : String :=
  (if n.catalog.isEmpty then "" else n.catalog ++ ".") ++
    (if n.schema.isEmpty then "" else n.schema ++ ".") ++ n.name

end QualifiedName

end TypedSql
