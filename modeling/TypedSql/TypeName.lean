/-!
# Type names

A reference to a type: its name, an optional schema, and how many times it is made an array.
-/

namespace TypedSql

structure TypeName where
  schema : String := ""
  name : String
  dims : Nat := 0
  deriving Repr, DecidableEq

namespace TypeName

def ofName (name : String) : TypeName :=
  { name }

def arrayOf (t : TypeName) : TypeName :=
  { t with dims := t.dims + 1 }

def isArray (t : TypeName) : Bool :=
  0 < t.dims

def dataType (t : TypeName) : String :=
  if t.schema.isEmpty then t.name else t.schema ++ "." ++ t.name

end TypeName

end TypedSql
