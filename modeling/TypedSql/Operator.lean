/-!
# Operators

The operators of expressions, joins and combined queries, as far as an analysis tells them apart.
-/

namespace TypedSql

inductive Operator where
  | eq
  | notEq
  | lt
  | ltEq
  | gt
  | gtEq
  | plus
  | minus
  | multiply
  | divide
  | modulo
  | and
  | or
  | concat
  | like
  | ilike
  | other (text : String)
  deriving Repr, DecidableEq

inductive JoinKind where
  | inner
  | left
  | right
  | full
  deriving Repr, DecidableEq

inductive SetOperator where
  | union
  | intersect
  | except
  deriving Repr, DecidableEq

namespace Operator

def isComparison : Operator → Bool
  | .eq | .notEq | .lt | .ltEq | .gt | .gtEq | .like | .ilike => true
  | _ => false

def isArithmetic : Operator → Bool
  | .plus | .minus | .multiply | .divide | .modulo => true
  | _ => false

def isLogical : Operator → Bool
  | .and | .or => true
  | _ => false

end Operator

end TypedSql
