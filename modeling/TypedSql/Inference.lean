import TypedSql.Output
import TypedSql.ParamSet

/-!
# Types of parameters

A parameter takes its type from the place where it stands: the column that it is compared with, assigned
or inserted into, the argument that it fills, the type that it is cast to, or the limit of a query. At any
other place it stays untyped. All occurrences of parameters are found by one walk, which keeps the named
queries in scope and the tables of the queries around a place.
-/

namespace TypedSql

/-- The state of the walk: the tables of the enclosing queries come innermost first. -/
structure Finding where
  scope : Scope
  levels : List (List SourceTable) := []
  found : List TypedParam := []

abbrev Find := StateT Finding (Except Error)

namespace Expr

def placeholder? : Expr → Option (Nat × Option TypeName)
  | .param n _ => some (n, none)
  | .cast e type => e.param?.map (·, some type)
  | _ => none

end Expr

namespace Find

def record (number : Nat) (column : TypedColumn) : Find Unit :=
  modify fun s => { s with found := s.found ++ [{ number, column }] }

def lookup (path : List String) : List (List SourceTable) → Except Error TypedColumn
  | [] => throw (.undefinedColumn (".".intercalate path))
  | tables :: levels => do
    match ← findColumn tables path with
    | some (_, c) => pure c
    | none => lookup path levels

def column (path : List String) : Find TypedColumn := do
  lookup path (← get).levels

def withLevel (tables : List SourceTable) (m : Find Unit) : Find Unit := do
  modify fun s => { s with levels := tables :: s.levels }
  m
  modify fun s => { s with levels := s.levels.tail }

def keepScope (m : Find Unit) : Find Unit := do
  let outer := (← get).scope
  m
  modify fun s => { s with scope := outer }

def tables (items : List FromItem) : Find (List SourceTable) := do
  (← get).scope.tables items

/-- A bare parameter is like the column; for any other expression the walk goes on. -/
def paramOr (c : TypedColumn) (e : Expr) (walk : Find Unit) : Find Unit :=
  match e.param? with
  | some n => record n c
  | none => walk

def text : TypedColumn :=
  { name := "", dataType := "text", notNull := false }

def argument (c : Call) (callee : Option Function) (i : Nat) (cast : Option TypeName) :
    TypedColumn :=
  let label := c.label? i
  match callee.bind (·.parameter? i label), cast with
  | some p, _ => .ofType (if p.name.isEmpty then label.getD c.name else p.name) p.type
  | none, some type => .ofType (label.getD c.name) type
  | none, none => .untyped (label.getD c.name)

/-- Item `i` of a row: a bare parameter is like the column that it is inserted into. -/
def itemOr (targets : Option (List TypedColumn)) (i : Nat) (e : Expr) (walk : Find Unit) :
    Find Unit :=
  match targets, e.param? with
  | some columns, some n =>
    match columns[i]? with
    | some c => record n c
    | none => throw .insertColumnCountMismatch
  | _, _ => walk

def firstColumn (scope : Scope) (q : Query) : TypedColumn :=
  match scope.columns q with
  | .ok (c :: _) => c
  | _ => .untyped ""

mutual

def expr : Expr → Find Unit
  | .param n _ => record n (.untyped "")
  | .column _ | .star _ | .named .. | .literal _ => pure ()
  | .binary left op right =>
    if op == .concat then do
      paramOr text left (expr left)
      paramOr text right (expr right)
    else if op.isLogical then do
      expr left
      expr right
    else
      match left.param?, left.column?, right.param?, right.column? with
      | some n, _, _, some path => do record n (← column path)
      | _, some path, some n, _ => do record n (← column path)
      | _, _, _, _ => do
        expr left
        expr right
  | .unary _ e => expr e
  | .call c args => do
    let callee := ((← get).scope.catalog.resolve c).toOption
    arguments c callee 0 args
  | .cast e type => paramOr (.ofType "" type) e (expr e)
  | .between e _ low high =>
    match e.column? with
    | some path => do
      let c ← column path
      paramOr (c.rename ("from_" ++ c.name)) low (expr low)
      paramOr (c.rename ("to_" ++ c.name)) high (expr high)
    | none => do
      expr e
      expr low
      expr high
  | .inList e items _ =>
    match e.column? with
    | some path => do
      let c ← column path
      members c items
    | none => do
      expr e
      exprs items
  | .inQuery e q _ => do
    paramOr (firstColumn (← get).scope q) e (expr e)
    query none q
  | .exist q _ => query none q
  | .subquery q => query none q
  | .choose operand conditions results otherwise => do
    option operand
    exprs conditions
    exprs results
    option otherwise
  | .isNull e _ => expr e
  | .array items => exprs items
  | .other _ params => exprs params

def exprs : List Expr → Find Unit
  | [] => pure ()
  | e :: es => do
    expr e
    exprs es

def members (c : TypedColumn) : List Expr → Find Unit
  | [] => pure ()
  | e :: es => do
    paramOr c e (expr e)
    members c es

def option : Option Expr → Find Unit
  | none => pure ()
  | some e => expr e

def arguments (c : Call) (callee : Option Function) (i : Nat) : List Expr → Find Unit
  | [] => pure ()
  | e :: es => do
    match e.placeholder? with
    | some (n, cast) => record n (argument c callee i cast)
    | none => expr e
    arguments c callee (i + 1) es

def query (targets : Option (List TypedColumn)) : Query → Find Unit
  | ⟨named, main, orderBy, limit, offset⟩ => keepScope do
    ctes named
    body targets main
    let level ← match main.leftmost? with
      | some s => tables s.sources
      | none => pure []
    withLevel level (exprs orderBy)
    bound "limit" limit
    bound "offset" offset

def ctes : List Cte → Find Unit
  | [] => pure ()
  | c :: cs => do
    cte c
    ctes cs

def cte : Cte → Find Unit
  | ⟨name, names, q⟩ => do
    query none q
    let s ← get
    set { s with scope := s.scope.insertCte name names (← s.scope.columns q) }

def bound (name : String) : Option Expr → Find Unit
  | none => pure ()
  | some e => paramOr { name, dataType := "integer", notNull := true } e (expr e)

def body (targets : Option (List TypedColumn)) : Body → Find Unit
  | .select s => select targets s
  | .setOp _ left right => do
    body targets left
    body targets right
  | .values rs => rows targets rs
  | .query q => query targets q

def rows (targets : Option (List TypedColumn)) : List (List Expr) → Find Unit
  | [] => pure ()
  | r :: rs => do
    row targets 0 r
    rows targets rs

def row (targets : Option (List TypedColumn)) (i : Nat) : List Expr → Find Unit
  | [] => pure ()
  | e :: es => do
    itemOr targets i e (expr e)
    row targets (i + 1) es

def select (targets : Option (List TypedColumn)) : Select → Find Unit
  | ⟨_, items, from_, selection, groupBy, having⟩ => do
    withLevel (← tables from_) do
      targetRow targets 0 items
      sources from_
      option selection
      exprs groupBy
      option having

def targetRow (targets : Option (List TypedColumn)) (i : Nat) : List Target → Find Unit
  | [] => pure ()
  | t :: ts => do
    target targets i t
    targetRow targets (i + 1) ts

def target (targets : Option (List TypedColumn)) (i : Nat) : Target → Find Unit
  | ⟨value, _⟩ => itemOr targets i value (expr value)

def sources : List FromItem → Find Unit
  | [] => pure ()
  | s :: ss => do
    source s
    sources ss

def source : FromItem → Find Unit
  | .join _ left right condition => do
    source left
    source right
    option condition
  | .range _ | .subquery .. | .other _ => pure ()

end

def assignment (t : SourceTable) (a : Assignment) : Find Unit :=
  match a.value.param? with
  | some n => do record n (← t.targetColumn a.column)
  | none => expr a.value

def returning (targets : List Target) : Find Unit :=
  targetRow none 0 targets

def insertColumns (t : SourceTable) (names : List String) : Except Error (List TypedColumn) :=
  if names.isEmpty then pure t.columns else names.mapM t.targetColumn

def insert (i : Insert) : Find Unit := do
  let t ← (← get).scope.table i.relation
  let columns ← insertColumns t i.columns
  if let some q := i.source then query (some columns) q
  withLevel [t] do
    i.onConflict.forM (assignment t)
    option i.conflictSelection
    returning i.returning

def update (u : Update) : Find Unit := do
  let scope := (← get).scope
  let t ← scope.table u.relation
  withLevel (← scope.targetTables u.relation u.sources) do
    u.assignments.forM (assignment t)
    sources u.sources
    option u.selection
    returning u.returning

def delete (d : Delete) : Find Unit := do
  withLevel (← (← get).scope.targetTables d.relation d.sources) do
    sources d.sources
    option d.selection
    returning d.returning

def statement : Statement → Find Unit
  | .select q => query none q
  | .insert i => insert i
  | .update u => update u
  | .delete d => delete d
  | .truncate _ => pure ()
  | s => throw (.unsupportedStatementKind s.kind)

end Find

namespace TypedParam

/-- Of two occurrences of a number, the first one if it has a type or the second has none. -/
def prefer (p q : TypedParam) : TypedParam :=
  if p.column.isUntyped && !q.column.isUntyped then q else p

def settle (p : TypedParam) : List TypedParam → List TypedParam
  | [] => [p]
  | q :: qs => if q.number = p.number then prefer q p :: qs else q :: settle p qs

def settled (found : List TypedParam) : List TypedParam :=
  found.foldl (fun ps p => settle p ps) []

def sortByNumber (ps : List TypedParam) : List TypedParam :=
  ps.mergeSort fun p q => p.number ≤ q.number

def checkDense (next : Nat) : List TypedParam → Except Error Unit
  | [] => pure ()
  | p :: ps =>
    if p.number = next then checkDense (next + 1) ps else throw (.parameterTypeUnknown next)

def inOrder (ps : List TypedParam) : Except Error (List TypedParam) := do
  let params := sortByNumber ps
  checkDense 1 params
  return params

def ofOccurrences (found : List TypedParam) : Except Error (List TypedParam) :=
  inOrder (settled found)

def nameIn (set : ParamSet) (p : TypedParam) : TypedParam :=
  match set.get? p.number with
  | none => p
  | some n =>
    { p with column := { p.column with
        name := n.name
        isNamed := true
        notNull := p.column.notNull && !n.nullable
        isSlice := n.slice } }

end TypedParam

/-- The parameters of a statement by their numbers, where `set` has the names of the named ones. -/
def Scope.params (scope : Scope) (s : Statement) (set : ParamSet) :
    Except Error (List TypedParam) := do
  let ((), end_) ← (Find.statement s).run { scope }
  return (← TypedParam.ofOccurrences end_.found).map (·.nameIn set)

end TypedSql
