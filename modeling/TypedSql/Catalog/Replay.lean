import TypedSql.Catalog.Change

/-!
# Replaying definitions

A catalog is built by replaying the statements of schema files in their order. Statements that define
nothing are passed over.
-/

namespace TypedSql

inductive Outcome where
  | applied
  | incomplete (ignored : List String)
  | ignored (reason : String)
  deriving Repr, DecidableEq

namespace TableChange

def ignored? : TableChange → Option String
  | .unsupported kind => some kind
  | _ => none

def replay (table : QualifiedName) : TableChange → Change QualifiedName
  | .addColumn column ifNotExists => do
    (Change.addColumn table column).forgive ifNotExists Error.isAlreadyExists
    return table
  | .dropColumn column ifExists => do
    (Change.dropColumn table column).forgive ifExists Error.isNotFound
    return table
  | .setNotNull column => do
    Change.setNotNull table column true
    return table
  | .dropNotNull column => do
    Change.setNotNull table column false
    return table
  | .setType column type => do
    Change.setColumnType table column type
    return table
  | .renameColumn old new => do
    Change.renameColumn table old new
    return table
  | .renameTable new => do
    Change.renameTable table new
    return { table with name := new }
  | .setSchema schema => do
    Change.moveTable table schema
    return { table with schema }
  | .unsupported _ => return table

end TableChange

namespace Outcome

def ofChanges (changes : List TableChange) : Outcome :=
  let ignored := changes.filterMap TableChange.ignored?
  if ignored.isEmpty then .applied
  else if ignored.length = changes.length then
    .ignored ("unsupported ALTER TABLE sub-commands: " ++ ", ".intercalate ignored)
  else .incomplete ignored

end Outcome

namespace Definition

def replayTable (n : QualifiedName) (ifNotExists : Bool) (columns : List ColumnDef) :
    Change Outcome := do
  if ifNotExists && ((← get).table n).isOk then
    return .ignored s!"relation \"{n.name}\" already exists"
  Change.createTable n columns
  return .applied

def replayChanges (table : QualifiedName) (ifExists : Bool) (changes : List TableChange) :
    Change Outcome := do
  let c ← get
  let table := c.qualify table
  match c.table table with
  | .ok _ =>
    let _ ← changes.foldlM TableChange.replay table
    return .ofChanges changes
  | .error e =>
    if ifExists && e.isNotFound then return .ignored (e.message?.getD "") else throw e

def dropObject : DropKind → QualifiedName → Change Unit
  | .table, n => Change.dropTable n
  | .type, n => Change.dropType n
  | .schema, n => Change.dropSchema n.name

def replaySchema (name : String) (ifNotExists : Bool) : Change Outcome := do
  let c ← get
  if c.schemas.contains name && (ifNotExists || name == c.defaultSchema) then
    return .ignored s!"schema \"{name}\" already exists"
  Change.createSchema name
  return .applied

def replayFunction (n : QualifiedName) (parameters : List Parameter) (returns : Option TypeName)
    (replace : Bool) : Change Outcome := do
  let f : Function := { name := n.name, parameters, returns := returns.getD (.ofName "void") }
  Change.createFunction ((← get).schemaName n) f replace
  return .applied

def replay : Definition QualifiedName → Change Outcome
  | .createTable n ifNotExists columns => replayTable n ifNotExists columns
  | .alterTable table ifExists changes => replayChanges table ifExists changes
  | .drop kind targets ifExists => do
    targets.forM fun n => (dropObject kind n).forgive ifExists Error.isNotFound
    return .applied
  | .createSchema name ifNotExists => replaySchema name ifNotExists
  | .createEnum n labels => do
    Change.createEnum n labels
    return .applied
  | .createComposite n => do
    Change.createComposite n
    return .applied
  | .createFunction n parameters returns replace => replayFunction n parameters returns replace
  | .dropFunction functions ifExists => do
    functions.forM fun s => (Change.dropFunction s).forgive ifExists Error.isNotFound
    return .applied
  | .comment target text => do
    Change.setComment target text
    return .applied

end Definition

/-- Replays one statement. What was done before an error stays. -/
def Statement.replay : Statement → Change Outcome
  | .define d => d.replay
  | s => return .ignored s.kind

end TypedSql
