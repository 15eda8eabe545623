import TypedSql.Name
import TypedSql.TypeName

/-!
# Definitions

The statements that change a schema. They are given over the type `ν` of names that stand for
tables, types and functions: first the name as it is written, then the qualified name.
-/

namespace TypedSql

structure ColumnDef where
  name : String
  type : TypeName
  notNull : Bool := false
  comment : Option String := none
  deriving Repr, DecidableEq

inductive TableChange where
  | addColumn (column : ColumnDef) (ifNotExists : Bool)
  | dropColumn (column : String) (ifExists : Bool)
  | setNotNull (column : String)
  | dropNotNull (column : String)
  | setType (column : String) (type : TypeName)
  | renameColumn (old new : String)
  | renameTable (new : String)
  | setSchema (schema : String)
  | unsupported (kind : String)
  deriving Repr, DecidableEq

inductive DropKind where
  | table
  | type
  | schema
  deriving Repr, DecidableEq

structure Parameter where
  name : String := ""
  type : TypeName
  hasDefault : Bool := false
  deriving Repr, DecidableEq

structure Signature (ν : Type) where
  name : ν
  types : Option (List TypeName)
  deriving Repr, DecidableEq

inductive CommentTarget (ν : Type) where
  | schema (name : String)
  | table (name : ν)
  | column (path : List String)
  | type (name : ν)
  deriving Repr, DecidableEq

inductive Definition (ν : Type) where
  | createTable (name : ν) (ifNotExists : Bool) (columns : List ColumnDef)
  | alterTable (table : ν) (ifExists : Bool) (changes : List TableChange)
  | drop (kind : DropKind) (targets : List ν) (ifExists : Bool)
  | createSchema (name : String) (ifNotExists : Bool)
  | createEnum (name : ν) (values : List String)
  | createComposite (name : ν)
  | createFunction (name : ν) (parameters : List Parameter) (returns : Option TypeName)
      (replace : Bool)
  | dropFunction (functions : List (Signature ν)) (ifExists : Bool)
  | comment (target : CommentTarget ν) (text : Option String)
  deriving Repr, DecidableEq

def CommentTarget.mapM {m : Type → Type} [Monad m] {ν μ : Type} (f : ν → m μ) :
    CommentTarget ν → m (CommentTarget μ)
  | .schema name => pure (.schema name)
  | .table name => return .table (← f name)
  | .column path => pure (.column path)
  | .type name => return .type (← f name)

namespace Definition

def mapM {m : Type → Type} [Monad m] {ν μ : Type} (f : ν → m μ) :
    Definition ν → m (Definition μ)
  | .createTable name ifNotExists columns =>
    return .createTable (← f name) ifNotExists columns
  | .alterTable table ifExists changes => return .alterTable (← f table) ifExists changes
  | .drop kind targets ifExists => return .drop kind (← targets.mapM f) ifExists
  | .createSchema name ifNotExists => pure (.createSchema name ifNotExists)
  | .createEnum name values => return .createEnum (← f name) values
  | .createComposite name => return .createComposite (← f name)
  | .createFunction name parameters returns replace =>
    return .createFunction (← f name) parameters returns replace
  | .dropFunction functions ifExists =>
    return .dropFunction
      (← functions.mapM fun s => return { name := ← f s.name, types := s.types }) ifExists
  | .comment target text => return .comment (← target.mapM f) text

def kind {ν : Type} : Definition ν → String
  | .createTable .. => "CREATE TABLE"
  | .alterTable .. => "ALTER TABLE"
  | .drop .table .. => "DROP TABLE"
  | .drop .type .. => "DROP TYPE"
  | .drop .schema .. => "DROP SCHEMA"
  | .createSchema .. => "CREATE SCHEMA"
  | .createEnum .. => "CREATE TYPE AS ENUM"
  | .createComposite .. => "CREATE TYPE"
  | .createFunction .. => "CREATE FUNCTION"
  | .dropFunction .. => "DROP FUNCTION"
  | .comment .. => "COMMENT"

end Definition

end TypedSql
