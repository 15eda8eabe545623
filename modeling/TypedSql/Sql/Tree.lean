import TypedSql.Definition
import TypedSql.Operator
import TypedSql.Token

/-!
# Statements as they are written

The tree that a statement is read into. It keeps what an analysis asks for and, of expressions and
queries, what is needed to print them again. Clauses that no analysis looks at are kept as the text
that they are printed as, or left out where they are never printed.
-/

namespace TypedSql.Sql

structure Ident where
  text : Text
  quote : Option Char := none
  deriving Repr, DecidableEq

namespace Ident

def ofWord (w : Word) : Ident :=
  { text := w.text, quote := if w.quoted then some '"' else none }

/-- The name that an identifier stands for: lower case unless it is quoted. -/
def name (i : Ident) : String :=
  match i.quote with
  | some _ => i.text.toString
  | none => i.text.lower.toString

end Ident

abbrev ObjectName := List Ident

namespace ObjectName

def names (n : ObjectName) : List String :=
  n.map Ident.name

def last (n : ObjectName) : String :=
  n.names.getLast?.getD ""

def schema (n : ObjectName) : String :=
  n.names.dropLast.getLast?.getD ""

end ObjectName

inductive Value where
  | number (digits : Text) (long : Bool)
  | string (form : StringForm) (text : Text)
  | boolean (b : Bool)
  | null
  | placeholder (text : Text)
  | word (text : Text)
  deriving Repr, DecidableEq

structure DataType where
  text : String
  type : TypeName
  custom : Bool := false
  deriving Repr, DecidableEq

inductive CastForm where
  | call (name format : String)
  | colons
  deriving Repr, DecidableEq

structure Label where
  name : Ident
  columns : List (Ident × Option DataType) := []
  deriving Repr, DecidableEq

mutual

inductive Expr where
  | ident (id : Ident)
  | compound (ids : List Ident)
  | value (v : Value)
  | nested (e : Expr)
  | binary (left : Expr) (op : Operator) (opens : String) (right : Expr) (closes : String)
  | unary (op : String) (e : Expr)
  | cast (form : CastForm) (e : Expr) (type : DataType)
  /-- A function call; `group` is the part that orders the group, `tail` what follows it. A call may
  stand between braces. -/
  | call (name : ObjectName) (args : Args) (group tail : List Piece) (braced : Bool)
  | between (e : Expr) (negated : Bool) (low high : Expr)
  | inList (e : Expr) (items : List Expr) (negated : Bool)
  | inQuery (e : Expr) (query : Query) (negated : Bool)
  | exist (query : Query) (negated : Bool)
  | subquery (query : Query)
  | choose (operand : Option Expr) (branches : List Branch) (otherwise : Option Expr)
  | isNull (e : Expr) (negated : Bool)
  | array (named : Bool) (items : List Expr)
  /-- An expression of another kind, by the pieces that it is printed from. -/
  | other (kind : String) (pieces : List Piece)

structure Branch where
  condition : Expr
  result : Expr

inductive Piece where
  | text (s : String)
  | expr (e : Expr)
  | query (q : Query)

inductive Args where
  | none
  | query (q : Query)
  | list (quantifier : String) (args : List Arg) (clauses : List Piece)

inductive Arg where
  | positional (value : ArgValue)
  | named (name : Expr) (op : String) (value : ArgValue)

inductive ArgValue where
  | expr (e : Expr)
  | star (qualifier : ObjectName)

structure Query where
  isRecursive : Bool
  ctes : List Cte
  body : Body
  orderBy : List OrderItem
  limit : Option Expr
  offset : Option Expr
  rows : String
  tail : String

structure OrderItem where
  expr : Expr
  order : String

structure Cte where
  label : Label
  head : String
  query : Query
  tail : String

inductive Body where
  | select (s : Select)
  | query (q : Query)
  | setOp (op : SetOperator) (quantifier : String) (left right : Body)
  | values (named : Bool) (rows : List (List Expr))
  | unsupported (kind text : String)

structure Select where
  distinct : Bool
  head : String
  items : List SelectItem
  into : String
  tables : List Tables
  views : String
  selection : Option Expr
  groupAll : Bool
  groupBy : List Expr
  spread : String
  having : Option Expr
  windows : String

inductive SelectItem where
  | expr (e : Expr)
  | aliased (e : Expr) (name : Ident)
  | star (qualifier : ObjectName)

structure Tables where
  first : Factor
  joins : List Join

structure Join where
  head : String
  kind : JoinKind
  factor : Factor
  condition : Option Expr
  tail : String

inductive Factor where
  | table (name : ObjectName) (head : String) (label : Option Label) (hints : String)
  | derived (isLateral : Bool) (query : Query) (label : Option Label)
  | nested (tables : Tables) (label : Option Label)
  | other (kind text : String)

end

inductive AssignmentTarget where
  | column (name : ObjectName)
  | columns (names : List ObjectName)

structure Assignment where
  target : AssignmentTarget
  value : Expr

inductive OnConflict where
  | none
  | nothing (target : String)
  | update (target : String) (assignments : List Assignment) (selection : Option Expr)
  | updateKey (assignments : List Assignment)

structure Insert where
  head : String
  table : ObjectName
  label : Option Ident
  columns : List Ident
  partition : List Expr
  source : Option Query
  onConflict : OnConflict
  returning : List SelectItem

inductive Insertion where
  | rows (i : Insert)
  | directory (text : String)

structure Update where
  head : String
  table : Tables
  assignments : List Assignment
  sources : Option Tables
  selection : Option Expr
  returning : List SelectItem

structure Delete where
  tables : List Tables
  sources : List Tables
  selection : Option Expr
  returning : List SelectItem

inductive Statement where
  | query (q : Query)
  | insert (i : Insert)
  | update (u : Update)
  | delete (d : Delete)
  | truncate (tables : List ObjectName)
  | define (d : Definition ObjectName)
  | noOp (kind : String)
  | other (kind : String)

end TypedSql.Sql
