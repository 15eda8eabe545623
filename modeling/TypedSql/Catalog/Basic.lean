import TypedSql.Catalog.Schema
import TypedSql.Settings
import TypedSql.Statement

/-!
# The catalog

All schemas that definitions have built up, and how names and calls are looked up in them.
-/

namespace TypedSql

def temporarySchema : String := "pg_temp"

structure Catalog where
  name : String := ""
  comment : Option String := none
  defaultSchema : String
  functionPath : List String
  schemas : Dict Schema
  deriving Repr, DecidableEq

namespace Catalog

/-- A catalog that holds the built-in functions only. The default schema may stand in place of one of
the others. -/
def initial (settings : Settings) : Catalog :=
  let schemas : Dict Schema := Dict.empty
    |>.insert systemSchema { name := systemSchema, functions := .builtins }
    |>.insert temporarySchema { name := temporarySchema }
    |>.insert settings.defaultSchema { name := settings.defaultSchema }
  { defaultSchema := settings.defaultSchema
    functionPath := settings.functionSearchPath
    schemas }

def schemaName (c : Catalog) (n : QualifiedName) : String :=
  n.schemaOr c.defaultSchema

def qualify (c : Catalog) (n : QualifiedName) : QualifiedName :=
  { n with schema := c.schemaName n }

def schema (c : Catalog) (name : String) : Except Error Schema :=
  match c.schemas.get? name with
  | some s => pure s
  | none => throw (.schemaNotFound name)

def table (c : Catalog) (n : QualifiedName) : Except Error Table := do
  (← c.schema (c.schemaName n)).table n.name

def type (c : Catalog) (n : QualifiedName) : Except Error UserType := do
  (← c.schema (c.schemaName n)).type n.name

def callee? (s : Schema) (call : Call) : Option Function :=
  let positional := if call.star then 0 else call.positional
  (s.functions.overloads call.name).find? (·.accepts positional call.names)

/-- The function that a call means. An unqualified call takes the first schema of the path that has one
for it. -/
def resolve (c : Catalog) (call : Call) : Except Error Function := do
  let found ←
    if call.schema.isEmpty then
      pure (c.functionPath.findSome? fun name => (c.schemas.get? name).bind (callee? · call))
    else
      pure (callee? (← c.schema call.schema) call)
  match found with
  | some f => pure f
  | none => throw (.functionNotFound call.qualifiedName)

end Catalog

end TypedSql
