import TypedSql.Edit
import TypedSql.ParamSet
import TypedSql.Statement.Check

/-!
# Numbers for named parameters

Named parameters are numbered by the places in the text where their names first stand. Every one becomes
a numbered parameter, in the tree and in the text.
-/

namespace TypedSql

namespace Renumber

mutual

def expr (number : String → Option Nat) : Expr → Expr
  | .column path => .column path
  | .star s => .star s
  | .param n location => .param n location
  | .named name style =>
    match number name with
    | some n => .param n none
    | none => .named name style
  | .literal l => .literal l
  | .binary left op right => .binary (expr number left) op (expr number right)
  | .unary op e => .unary op (expr number e)
  | .call c args => .call c (exprs number args)
  | .cast e type => .cast (expr number e) type
  | .between e negated low high =>
    .between (expr number e) negated (expr number low) (expr number high)
  | .inList e items negated => .inList (expr number e) (exprs number items) negated
  | .inQuery e q negated => .inQuery (expr number e) (query number q) negated
  | .exist q negated => .exist (query number q) negated
  | .subquery q => .subquery (query number q)
  | .choose operand conditions results otherwise =>
    .choose (option number operand) (exprs number conditions) (exprs number results)
      (option number otherwise)
  | .isNull e negated => .isNull (expr number e) negated
  | .array items => .array (exprs number items)
  | .other kind params => .other kind (exprs number params)

def exprs (number : String → Option Nat) : List Expr → List Expr
  | [] => []
  | e :: es => expr number e :: exprs number es

def option (number : String → Option Nat) : Option Expr → Option Expr
  | none => none
  | some e => some (expr number e)

def query (number : String → Option Nat) : Query → Query
  | ⟨named, main, orderBy, limit, offset⟩ =>
    ⟨ctes number named, body number main, exprs number orderBy, option number limit,
      option number offset⟩

def ctes (number : String → Option Nat) : List Cte → List Cte
  | [] => []
  | c :: cs => cte number c :: ctes number cs

def cte (number : String → Option Nat) : Cte → Cte
  | ⟨name, columns, q⟩ => ⟨name, columns, query number q⟩

def body (number : String → Option Nat) : Body → Body
  | .select s => .select (select number s)
  | .setOp op left right => .setOp op (body number left) (body number right)
  | .values rs => .values (rows number rs)
  | .query q => .query (query number q)

def rows (number : String → Option Nat) : List (List Expr) → List (List Expr)
  | [] => []
  | r :: rs => exprs number r :: rows number rs

def select (number : String → Option Nat) : Select → Select
  | ⟨distinct, items, from_, selection, groupBy, having⟩ =>
    ⟨distinct, targets number items, sources number from_, option number selection,
      exprs number groupBy, option number having⟩

def targets (number : String → Option Nat) : List Target → List Target
  | [] => []
  | t :: ts => target number t :: targets number ts

def target (number : String → Option Nat) : Target → Target
  | ⟨value, name⟩ => ⟨expr number value, name⟩

def sources (number : String → Option Nat) : List FromItem → List FromItem
  | [] => []
  | s :: ss => source number s :: sources number ss

def source (number : String → Option Nat) : FromItem → FromItem
  | .range r => .range r
  | .join kind left right condition =>
    .join kind (source number left) (source number right) (option number condition)
  | .subquery q label => .subquery (query number q) label
  | .other kind => .other kind

end

def assignment (number : String → Option Nat) (a : Assignment) : Assignment :=
  { a with value := expr number a.value }

def statement (number : String → Option Nat) : Statement → Statement
  | .select q => .select (query number q)
  | .insert i => .insert { i with
      source := i.source.map (query number)
      onConflict := i.onConflict.map (assignment number)
      conflictSelection := option number i.conflictSelection
      returning := targets number i.returning }
  | .update u => .update { u with
      assignments := u.assignments.map (assignment number)
      sources := sources number u.sources
      selection := option number u.selection
      returning := targets number u.returning }
  | .delete d => .delete { d with
      sources := sources number d.sources
      selection := option number d.selection
      returning := targets number d.returning }
  | s => s

end Renumber

/-- A statement with numbered parameters only, the names that its numbers had, and the edits that make
the text follow. -/
structure Numbered where
  statement : Statement
  params : ParamSet
  edits : List Edit

namespace Numbered

def ofSites : ParamSet → List NamedSite → ParamSet × List Edit
  | set, [] => (set, [])
  | set, site :: sites =>
    let (set, n) := set.add site.name site.style
    let (set, edits) := ofSites set sites
    (set, { location := site.location, old := site.text, new := ("$" ++ toString n).toList } :: edits)

def unplaced? (set : ParamSet) (s : Statement) : Option String :=
  ((s.exprs.filterMap Expr.named?).filter fun (name, _) => (set.number? name).isNone).getLast?.map
    Prod.fst

def ofStatement (s : Statement) (sites : List NamedSite) : Except Error Numbered :=
  let (params, edits) := ofSites {} sites
  match unplaced? params s with
  | some name => throw (.internal (.namedWithoutSite name))
  | none => pure { statement := Renumber.statement params.number? s, params, edits }

end Numbered

end TypedSql
