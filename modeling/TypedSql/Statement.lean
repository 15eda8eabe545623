import TypedSql.Definition
import TypedSql.Operator
import TypedSql.Site

/-!
# Statements

The tree that analyses work on. Names are read as the names that they stand for, wildcards know their
place in the text, and parameters are told apart from other expressions. An expression that no analysis
knows is kept as the parameters and queries inside it.
-/

namespace TypedSql

structure StarRef where
  qualifier : List String
  location : Option Nat
  text : Text
  embed : Bool
  deriving Repr, DecidableEq

def StarRef.scope (s : StarRef) : String :=
  ".".intercalate s.qualifier

inductive Literal where
  | number (digits : String)
  | string (s : String)
  | boolean (b : Bool)
  | null
  | other (text : String)
  deriving Repr, DecidableEq

/-- A call of a function without the expressions of its arguments. Each argument has a label, which is
its name if it is given by name. -/
structure Call where
  schema : String
  name : String
  labels : List (Option String)
  star : Bool
  deriving Repr, DecidableEq

namespace Call

def qualifiedName (c : Call) : String :=
  if c.schema.isEmpty then c.name else c.schema ++ "." ++ c.name

def positional (c : Call) : Nat :=
  (c.labels.takeWhile Option.isNone).length

def names (c : Call) : List String :=
  c.labels.filterMap id

def label? (c : Call) (i : Nat) : Option String :=
  (c.labels[i]?).join

end Call

structure RangeVar where
  relation : QualifiedName
  label : Option String
  deriving Repr, DecidableEq

def RangeVar.visibleName (r : RangeVar) : String :=
  r.label.getD r.relation.name

mutual

inductive Expr where
  | column (path : List String)
  | star (s : StarRef)
  | param (number : Nat) (location : Option Nat)
  | named (name : String) (style : NamedStyle)
  | literal (l : Literal)
  | binary (left : Expr) (op : Operator) (right : Expr)
  | unary (op : String) (e : Expr)
  | call (c : Call) (args : List Expr)
  | cast (e : Expr) (type : TypeName)
  | between (e : Expr) (negated : Bool) (low high : Expr)
  | inList (e : Expr) (items : List Expr) (negated : Bool)
  | inQuery (e : Expr) (query : Query) (negated : Bool)
  | exist (query : Query) (negated : Bool)
  | subquery (query : Query)
  | choose (operand : Option Expr) (conditions results : List Expr) (otherwise : Option Expr)
  | isNull (e : Expr) (negated : Bool)
  | array (items : List Expr)
  /-- An expression of another kind, with the parameters and queries inside it. -/
  | other (kind : String) (params : List Expr)

structure Query where
  ctes : List Cte
  body : Body
  orderBy : List Expr
  limit : Option Expr
  offset : Option Expr

structure Cte where
  name : String
  columns : List String
  query : Query

inductive Body where
  | select (s : Select)
  | setOp (op : SetOperator) (left right : Body)
  | values (rows : List (List Expr))
  | query (q : Query)

structure Select where
  distinct : Bool
  targets : List Target
  sources : List FromItem
  selection : Option Expr
  groupBy : List Expr
  having : Option Expr

structure Target where
  value : Expr
  name : Option String

inductive FromItem where
  | range (r : RangeVar)
  | join (kind : JoinKind) (left right : FromItem) (condition : Option Expr)
  | subquery (query : Query) (label : Option String)
  | other (kind : String)

end

def FromItem.kind : FromItem → String
  | .range _ => "range variable"
  | .join .. => "join"
  | .subquery .. => "subquery"
  | .other kind => kind

/-- The left-most select of a body, whose columns are those of the body. -/
def Body.leftmost? : Body → Option Select
  | .select s => some s
  | .setOp _ left _ => left.leftmost?
  | .values _ => none
  | .query ⟨_, body, _, _, _⟩ => body.leftmost?

def Query.leftmost? (q : Query) : Option Select :=
  q.body.leftmost?

structure Assignment where
  column : String
  value : Expr

structure Insert where
  relation : RangeVar
  columns : List String
  source : Option Query
  onConflict : List Assignment
  conflictSelection : Option Expr
  returning : List Target

structure Update where
  relation : RangeVar
  assignments : List Assignment
  sources : List FromItem
  selection : Option Expr
  returning : List Target

structure Delete where
  relation : RangeVar
  sources : List FromItem
  selection : Option Expr
  returning : List Target

inductive Statement where
  | select (q : Query)
  | insert (i : Insert)
  | update (u : Update)
  | delete (d : Delete)
  | truncate (relations : List RangeVar)
  | define (d : Definition QualifiedName)
  | noOp (kind : String)
  | other (kind : String)

namespace Statement

def kind : Statement → String
  | .select _ => "SELECT"
  | .insert _ => "INSERT"
  | .update _ => "UPDATE"
  | .delete _ => "DELETE"
  | .truncate _ => "TRUNCATE"
  | .define d => d.kind
  | .noOp kind => kind
  | .other kind => kind

def isQuery : Statement → Bool
  | .select _ | .insert _ | .update _ | .delete _ | .truncate _ => true
  | _ => false

end Statement

end TypedSql
