import TypedSql.Statement

/-!
# The expressions of a statement

All expressions of a statement in the order in which they are visited: an expression comes before the
expressions inside it, and the parts of a query come in a fixed order, its named queries first.
-/

namespace TypedSql

namespace Visit

mutual

def expr (e : Expr) : List Expr :=
  e :: match e with
  | .column _ | .star _ | .param .. | .named .. | .literal _ => []
  | .binary left _ right => expr left ++ expr right
  | .unary _ e => expr e
  | .call _ args => exprs args
  | .cast e _ => expr e
  | .between e _ low high => expr e ++ expr low ++ expr high
  | .inList e items _ => expr e ++ exprs items
  | .inQuery e q _ => expr e ++ query q
  | .exist q _ => query q
  | .subquery q => query q
  | .choose operand conditions results otherwise =>
    option operand ++ exprs conditions ++ exprs results ++ option otherwise
  | .isNull e _ => expr e
  | .array items => exprs items
  | .other _ params => exprs params

def exprs : List Expr → List Expr
  | [] => []
  | e :: es => expr e ++ exprs es

def option : Option Expr → List Expr
  | none => []
  | some e => expr e

def query : Query → List Expr
  | ⟨named, main, orderBy, limit, offset⟩ =>
    ctes named ++ body main ++ exprs orderBy ++ option limit ++ option offset

def ctes : List Cte → List Expr
  | [] => []
  | c :: cs => cte c ++ ctes cs

def cte : Cte → List Expr
  | ⟨_, _, q⟩ => query q

def body : Body → List Expr
  | .select s => select s
  | .setOp _ left right => body left ++ body right
  | .values rs => rows rs
  | .query q => query q

def rows : List (List Expr) → List Expr
  | [] => []
  | r :: rs => exprs r ++ rows rs

def select : Select → List Expr
  | ⟨_, items, from_, selection, groupBy, having⟩ =>
    targets items ++ sources from_ ++ option selection ++ exprs groupBy ++ option having

def targets : List Target → List Expr
  | [] => []
  | t :: ts => target t ++ targets ts

def target : Target → List Expr
  | ⟨value, _⟩ => expr value

def sources : List FromItem → List Expr
  | [] => []
  | s :: ss => source s ++ sources ss

def source : FromItem → List Expr
  | .range _ => []
  | .join _ left right condition => source left ++ source right ++ option condition
  | .subquery q _ => query q
  | .other _ => []

end

def assignments (as : List Assignment) : List Expr :=
  as.flatMap fun a => expr a.value

end Visit

def Statement.exprs : Statement → List Expr
  | .select q => Visit.query q
  | .insert i =>
    (i.source.map Visit.query).getD [] ++ Visit.assignments i.onConflict ++
      Visit.option i.conflictSelection ++ Visit.targets i.returning
  | .update u =>
    Visit.assignments u.assignments ++ Visit.sources u.sources ++ Visit.option u.selection ++
      Visit.targets u.returning
  | .delete d => Visit.sources d.sources ++ Visit.option d.selection ++ Visit.targets d.returning
  | _ => []

end TypedSql
