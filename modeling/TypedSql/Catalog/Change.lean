import TypedSql.Catalog.Basic

/-!
# Changes of a catalog

The elementary changes: each does one thing to one schema, table, type or function, or fails with the
reason why it cannot.
-/

namespace TypedSql

/-- A change may fail; what it did to the catalog until then stays. -/
abbrev Change := ExceptT Error (StateM Catalog)

namespace Change

def apply {α : Type} (m : Change α) (c : Catalog) : Except Error α × Catalog :=
  StateT.run (ExceptT.run m) c

def forgive (allowed : Bool) (family : Error → Bool) (m : Change Unit) : Change Unit :=
  tryCatch m fun e => if allowed && family e then pure () else throw e

def onSchema (name : String) (f : Schema → Except Error Schema) : Change Unit := do
  let c ← get
  let s ← f (← c.schema name)
  set { c with schemas := c.schemas.insert name s }

def onSchemaOf (n : QualifiedName) (f : Schema → Except Error Schema) : Change Unit := do
  onSchema ((← get).schemaName n) f

def onTable (n : QualifiedName) (f : Table → Except Error Table) : Change Unit :=
  onSchemaOf n (·.modifyTable n.name f)

def createSchema (name : String) : Change Unit := do
  let c ← get
  if c.schemas.contains name then throw (.schemaAlreadyExists name)
  set { c with schemas := c.schemas.insert name { name } }

def dropSchema (name : String) : Change Unit := do
  let c ← get
  let _ ← c.schema name
  set { c with schemas := c.schemas.erase name }

def createTable (n : QualifiedName) (columns : List ColumnDef) : Change Unit := do
  let t := Table.ofDefs ((← get).qualify n) columns
  if let some name := Table.repeatedColumn? t.columns [] then
    throw (.columnAlreadyExists t.rel.name name)
  onSchema t.rel.schema (·.insertTable t)

def dropTable (n : QualifiedName) : Change Unit :=
  onSchemaOf n (·.removeTable n.name)

def relocate (source name target : String) (t : Table) : Change Unit := do
  onSchema source (·.removeTable name)
  onSchema target (·.insertTable t)

/-- Renames a table within its schema. A renamed table is known by its schema and its new name alone. -/
def renameTable (n : QualifiedName) (new : String) : Change Unit := do
  let c ← get
  let s ← c.schema (c.schemaName n)
  let t ← s.table n.name
  s.checkTableFree new
  relocate (c.schemaName n) n.name (c.schemaName n) (t.setName (.ofSchema s.name new))

def moveTable (n : QualifiedName) (target : String) : Change Unit := do
  let c ← get
  let t ← c.table n
  (← c.schema target).checkTableFree n.name
  relocate (c.schemaName n) n.name target (t.setName { t.rel with schema := target })

def addColumn (n : QualifiedName) (d : ColumnDef) : Change Unit :=
  onTable n (·.addColumn d)

def dropColumn (n : QualifiedName) (column : String) : Change Unit :=
  onTable n (·.dropColumn column)

def setColumnType (n : QualifiedName) (column : String) (type : TypeName) : Change Unit :=
  onTable n (·.modifyColumn column (·.setType type))

def setNotNull (n : QualifiedName) (column : String) (notNull : Bool) : Change Unit :=
  onTable n (·.modifyColumn column ({ · with notNull }))

def renameColumn (n : QualifiedName) (old new : String) : Change Unit :=
  onTable n (·.renameColumn old new)

def createEnum (n : QualifiedName) (labels : List String) : Change Unit :=
  onSchemaOf n (·.insertType { name := n.name, kind := .enum labels })

def createComposite (n : QualifiedName) : Change Unit :=
  onSchemaOf n (·.insertType { name := n.name, kind := .composite })

def dropType (n : QualifiedName) : Change Unit :=
  onSchemaOf n (·.removeType n.name)

def createFunction (schema : String) (f : Function) (replace : Bool) : Change Unit := do
  onSchema schema fun s => pure (s.reserveFunctions f.name)
  onSchema schema (·.addFunction f replace)

def dropFunction (s : Signature QualifiedName) : Change Unit :=
  onSchemaOf s.name (·.removeFunction s.name.name s.types)

def setColumnComment (path : List String) (comment : Option String) : Change Unit :=
  let on (n : QualifiedName) (column : String) :=
    onTable n (·.modifyColumn column ({ · with comment }))
  match path with
  | [table, column] => on (.ofName table) column
  | [schema, table, column] => on (.ofSchema schema table) column
  | [catalog, schema, table, column] => on { catalog, schema, name := table } column
  | _ => throw (.unsupported s!"COMMENT ON COLUMN with {path.length} name parts")

def setComment (target : CommentTarget QualifiedName) (comment : Option String) : Change Unit :=
  match target with
  | .schema name => onSchema name fun s => pure { s with comment }
  | .table n => onTable n fun t => pure { t with comment }
  | .type n => onSchemaOf n (·.commentType n.name comment)
  | .column path => setColumnComment path comment

end Change

end TypedSql
