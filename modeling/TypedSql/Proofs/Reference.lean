import Mathlib.Logic.Basic
import TypedSql.Catalog.Basic
import TypedSql.Statement.Numbering

/-!
# Table references

The tables that a statement names at any depth, each with the named queries in scope at its place. The
tables of a left-most select are looked up once more by the query around it: for its columns and for its
order. There the named queries of a query in parentheses are out of scope, so such a lookup may mean another
table than the reference itself.
-/

namespace TypedSql

/-- A table by the name that a statement gives, and the named queries in scope there. -/
structure Reference where
  relation : QualifiedName
  ctes : List String
  again : Bool := false
  deriving Repr, DecidableEq

namespace Reference

def isCte (r : Reference) : Bool :=
  r.relation.schema.isEmpty && r.ctes.contains r.relation.name

def Resolves (c : Catalog) (r : Reference) : Prop :=
  r.isCte = true ∨ ∃ t, c.table r.relation = .ok t

def Means (c : Catalog) (n : QualifiedName) (r : Reference) : Prop :=
  r.isCte = false ∧ c.schemaName r.relation = c.schemaName n ∧ r.relation.name = n.name

instance (c : Catalog) (n : QualifiedName) (r : Reference) : Decidable (r.Means c n) :=
  inferInstanceAs (Decidable (_ ∧ _))

end Reference

def FromItem.relations : FromItem → List QualifiedName
  | .range r => [r.relation]
  | .join _ left right _ => left.relations ++ right.relations
  | .subquery .. => []
  | .other _ => []

def Body.frontRelations (b : Body) : List QualifiedName :=
  match b.leftmost? with
  | some s => s.sources.flatMap FromItem.relations
  | none => []

namespace Refer

def relations (ctes : List String) (names : List QualifiedName) : List Reference :=
  names.map fun relation => { relation, ctes }

def again (ctes : List String) (names : List QualifiedName) : List Reference :=
  names.map fun relation => { relation, ctes, again := true }

mutual

def expr (ctes : List String) : Expr → List Reference
  | .column _ | .star _ | .param .. | .named .. | .literal _ => []
  | .binary left _ right => expr ctes left ++ expr ctes right
  | .unary _ e => expr ctes e
  | .call _ args => exprs ctes args
  | .cast e _ => expr ctes e
  | .between e _ low high => expr ctes e ++ expr ctes low ++ expr ctes high
  | .inList e items _ => expr ctes e ++ exprs ctes items
  | .inQuery e q _ => expr ctes e ++ query ctes q
  | .exist q _ => query ctes q
  | .subquery q => query ctes q
  | .choose operand conditions results otherwise =>
    option ctes operand ++ exprs ctes conditions ++ exprs ctes results ++ option ctes otherwise
  | .isNull e _ => expr ctes e
  | .array items => exprs ctes items
  | .other _ params => exprs ctes params

def exprs (ctes : List String) : List Expr → List Reference
  | [] => []
  | e :: es => expr ctes e ++ exprs ctes es

def option (ctes : List String) : Option Expr → List Reference
  | none => []
  | some e => expr ctes e

/-- All named queries are in scope in the rest of a query, where the tables of the left-most select are
looked up once more. -/
def query (ctes : List String) : Query → List Reference
  | ⟨named, main, orderBy, limit, offset⟩ =>
    let inner := ctes ++ named.map Cte.name
    cteList ctes named ++ body inner main ++ again inner main.frontRelations ++ exprs inner orderBy ++
      option inner limit ++ option inner offset

def cteList (ctes : List String) : List Cte → List Reference
  | [] => []
  | ⟨name, _, q⟩ :: cs => query ctes q ++ cteList (ctes ++ [name]) cs

def body (ctes : List String) : Body → List Reference
  | .select s => select ctes s
  | .setOp _ left right => body ctes left ++ body ctes right
  | .values rs => rows ctes rs
  | .query q => query ctes q

def rows (ctes : List String) : List (List Expr) → List Reference
  | [] => []
  | r :: rs => exprs ctes r ++ rows ctes rs

def select (ctes : List String) : Select → List Reference
  | ⟨_, items, from_, selection, groupBy, having⟩ =>
    targets ctes items ++ sources ctes from_ ++ option ctes selection ++ exprs ctes groupBy ++
      option ctes having

def targets (ctes : List String) : List Target → List Reference
  | [] => []
  | ⟨value, _⟩ :: ts => expr ctes value ++ targets ctes ts

def sources (ctes : List String) : List FromItem → List Reference
  | [] => []
  | s :: ss => source ctes s ++ sources ctes ss

def source (ctes : List String) : FromItem → List Reference
  | .range r => [{ relation := r.relation, ctes }]
  | .join _ left right condition => source ctes left ++ source ctes right ++ option ctes condition
  | .subquery q _ => query ctes q
  | .other _ => []

end

def assignments (as : List Assignment) : List Reference :=
  as.flatMap fun a => expr [] a.value

def statement : Statement → List Reference
  | .select q => query [] q
  | .insert i =>
    relations [] [i.relation.relation] ++ (i.source.map (query [])).getD [] ++
      assignments i.onConflict ++ option [] i.conflictSelection ++ targets [] i.returning
  | .update u =>
    relations [] [u.relation.relation] ++ assignments u.assignments ++ sources [] u.sources ++
      option [] u.selection ++ targets [] u.returning
  | .delete d =>
    relations [] [d.relation.relation] ++ sources [] d.sources ++ option [] d.selection ++
      targets [] d.returning
  | _ => []

theorem mem_source {ctes : List String} : {item : FromItem} → {relation : QualifiedName} →
    relation ∈ item.relations → { relation, ctes } ∈ source ctes item
  | .range r, relation, h => by
    rw [List.mem_singleton.mp h]
    exact List.mem_singleton_self _
  | .join _ left right _, relation, h => by
    refine List.mem_append_left _ (List.mem_append.mpr ?_)
    exact (List.mem_append.mp h).imp mem_source mem_source
  | .subquery .., _, h => by cases h
  | .other _, _, h => by cases h

theorem mem_sources {ctes : List String} {items : List FromItem} {relation : QualifiedName}
    (h : relation ∈ items.flatMap FromItem.relations) : { relation, ctes } ∈ sources ctes items := by
  induction items with
  | nil => cases h
  | cons item items ih =>
    rw [List.flatMap_cons] at h
    exact List.mem_append.mpr ((List.mem_append.mp h).imp mem_source ih)

theorem mem_targetTables {ctes : List String} {target : RangeVar} {items : List FromItem}
    {r : Reference} (h : r ∈ relations ctes (target.relation :: items.flatMap FromItem.relations)) :
    r ∈ relations ctes [target.relation] ∨ r ∈ sources ctes items := by
  obtain ⟨relation, hrelation, rfl⟩ := List.mem_map.mp h
  rcases List.mem_cons.mp hrelation with rfl | hrelation
  · exact .inl (List.mem_singleton_self _)
  · exact .inr (mem_sources hrelation)

theorem insert_tables (i : Insert) : relations [] [i.relation.relation] ⊆ statement (.insert i) := by
  intro r hr
  simp [statement, hr]

theorem update_tables (u : Update) :
    relations [] (u.relation.relation :: u.sources.flatMap FromItem.relations) ⊆ statement (.update u) := by
  intro r hr
  rcases mem_targetTables hr with h | h <;> simp [statement, h]

theorem delete_tables (d : Delete) :
    relations [] (d.relation.relation :: d.sources.flatMap FromItem.relations) ⊆ statement (.delete d) := by
  intro r hr
  rcases mem_targetTables hr with h | h <;> simp [statement, h]

end Refer

namespace Statement

/-- What an analysis looks up: the table references of a statement, and some of them once more. -/
def lookups (s : Statement) : List Reference :=
  Refer.statement s

def truncated : Statement → List QualifiedName
  | .truncate rs => rs.map RangeVar.relation
  | _ => []

def references (s : Statement) : List Reference :=
  s.lookups.filter (!·.again) ++ Refer.relations [] s.truncated

end Statement

theorem FromItem.relations_renumber (number : String → Option Nat) :
    (item : FromItem) → (Renumber.source number item).relations = item.relations
  | .range _ => rfl
  | .join _ left right _ =>
    congrArg₂ (· ++ ·) (relations_renumber number left) (relations_renumber number right)
  | .subquery .. => rfl
  | .other _ => rfl

theorem Renumber.flatMap_relations (number : String → Option Nat) (items : List FromItem) :
    (Renumber.sources number items).flatMap FromItem.relations = items.flatMap FromItem.relations := by
  induction items with
  | nil => rfl
  | cons item items ih => exact congrArg₂ (· ++ ·) (item.relations_renumber number) ih

theorem Body.leftmost?_renumber (number : String → Option Nat) :
    (b : Body) → (Renumber.body number b).leftmost? = b.leftmost?.map (Renumber.select number)
  | .select _ => rfl
  | .setOp _ left _ => leftmost?_renumber number left
  | .values _ => rfl
  | .query ⟨_, b, _, _, _⟩ => leftmost?_renumber number b

theorem Body.frontRelations_renumber (number : String → Option Nat) (b : Body) :
    (Renumber.body number b).frontRelations = b.frontRelations := by
  unfold frontRelations
  rw [leftmost?_renumber]
  cases b.leftmost? with
  | none => rfl
  | some s =>
    obtain ⟨_, _, from_, _, _, _⟩ := s
    exact Renumber.flatMap_relations number from_

theorem Renumber.map_name_ctes (number : String → Option Nat) (cs : List Cte) :
    (Renumber.ctes number cs).map Cte.name = cs.map Cte.name := by
  induction cs with
  | nil => rfl
  | cons c cs ih =>
    obtain ⟨name, _, _⟩ := c
    exact congrArg (name :: ·) ih

namespace Refer

variable (number : String → Option Nat)

mutual

theorem expr_renumber (ctes : List String) :
    (e : Expr) → expr ctes (Renumber.expr number e) = expr ctes e
  | .column _ | .star _ | .param .. | .literal _ => rfl
  | .named name style => by
    rw [Renumber.expr]
    split <;> rfl
  | .binary left _ right => congrArg₂ (· ++ ·) (expr_renumber ctes left) (expr_renumber ctes right)
  | .unary _ e => expr_renumber ctes e
  | .call _ args => exprs_renumber ctes args
  | .cast e _ => expr_renumber ctes e
  | .between e _ low high =>
    congrArg₂ (· ++ ·) (congrArg₂ (· ++ ·) (expr_renumber ctes e) (expr_renumber ctes low))
      (expr_renumber ctes high)
  | .inList e items _ => congrArg₂ (· ++ ·) (expr_renumber ctes e) (exprs_renumber ctes items)
  | .inQuery e q _ => congrArg₂ (· ++ ·) (expr_renumber ctes e) (query_renumber ctes q)
  | .exist q _ => query_renumber ctes q
  | .subquery q => query_renumber ctes q
  | .choose operand conditions results otherwise =>
    congrArg₂ (· ++ ·) (congrArg₂ (· ++ ·) (congrArg₂ (· ++ ·) (option_renumber ctes operand)
      (exprs_renumber ctes conditions)) (exprs_renumber ctes results)) (option_renumber ctes otherwise)
  | .isNull e _ => expr_renumber ctes e
  | .array items => exprs_renumber ctes items
  | .other _ params => exprs_renumber ctes params

theorem exprs_renumber (ctes : List String) :
    (es : List Expr) → exprs ctes (Renumber.exprs number es) = exprs ctes es
  | [] => rfl
  | e :: es => congrArg₂ (· ++ ·) (expr_renumber ctes e) (exprs_renumber ctes es)

theorem option_renumber (ctes : List String) :
    (e : Option Expr) → option ctes (Renumber.option number e) = option ctes e
  | none => rfl
  | some e => expr_renumber ctes e

theorem query_renumber (ctes : List String) :
    (q : Query) → query ctes (Renumber.query number q) = query ctes q
  | ⟨named, main, orderBy, limit, offset⟩ => by
    rw [Renumber.query, query, query, Renumber.map_name_ctes, Body.frontRelations_renumber, cteList_renumber ctes named,
      body_renumber _ main, exprs_renumber _ orderBy, option_renumber _ limit, option_renumber _ offset]

theorem cteList_renumber (ctes : List String) :
    (cs : List Cte) → cteList ctes (Renumber.ctes number cs) = cteList ctes cs
  | [] => rfl
  | ⟨_, _, q⟩ :: cs => congrArg₂ (· ++ ·) (query_renumber ctes q) (cteList_renumber _ cs)

theorem body_renumber (ctes : List String) :
    (b : Body) → body ctes (Renumber.body number b) = body ctes b
  | .select s => select_renumber ctes s
  | .setOp _ left right => congrArg₂ (· ++ ·) (body_renumber ctes left) (body_renumber ctes right)
  | .values rs => rows_renumber ctes rs
  | .query q => query_renumber ctes q

theorem rows_renumber (ctes : List String) :
    (rs : List (List Expr)) → rows ctes (Renumber.rows number rs) = rows ctes rs
  | [] => rfl
  | r :: rs => congrArg₂ (· ++ ·) (exprs_renumber ctes r) (rows_renumber ctes rs)

theorem select_renumber (ctes : List String) :
    (s : Select) → select ctes (Renumber.select number s) = select ctes s
  | ⟨_, items, from_, selection, groupBy, having⟩ => by
    rw [Renumber.select, select, select, targets_renumber ctes items, sources_renumber ctes from_,
      option_renumber ctes selection, exprs_renumber ctes groupBy, option_renumber ctes having]

theorem targets_renumber (ctes : List String) :
    (ts : List Target) → targets ctes (Renumber.targets number ts) = targets ctes ts
  | [] => rfl
  | ⟨value, _⟩ :: ts => congrArg₂ (· ++ ·) (expr_renumber ctes value) (targets_renumber ctes ts)

theorem sources_renumber (ctes : List String) :
    (items : List FromItem) → sources ctes (Renumber.sources number items) = sources ctes items
  | [] => rfl
  | item :: items => congrArg₂ (· ++ ·) (source_renumber ctes item) (sources_renumber ctes items)

theorem source_renumber (ctes : List String) :
    (item : FromItem) → source ctes (Renumber.source number item) = source ctes item
  | .range _ => rfl
  | .join _ left right condition =>
    congrArg₂ (· ++ ·) (congrArg₂ (· ++ ·) (source_renumber ctes left) (source_renumber ctes right))
      (option_renumber ctes condition)
  | .subquery q _ => query_renumber ctes q
  | .other _ => rfl

end

theorem assignments_renumber (as : List Assignment) :
    assignments (as.map (Renumber.assignment number)) = assignments as := by
  induction as with
  | nil => rfl
  | cons a as ih => exact congrArg₂ (· ++ ·) (expr_renumber number [] a.value) ih

theorem statement_renumber (s : Statement) :
    statement (Renumber.statement number s) = statement s := by
  cases s with
  | select q => exact query_renumber number [] q
  | insert i =>
    have hsource : ((i.source.map (Renumber.query number)).map (query [])).getD [] =
        (i.source.map (query [])).getD [] := by
      cases i.source with
      | none => rfl
      | some q => exact query_renumber number [] q
    rw [Renumber.statement, statement, statement]
    dsimp only
    rw [hsource, assignments_renumber, option_renumber, targets_renumber]
  | update u =>
    rw [Renumber.statement, statement, statement]
    dsimp only
    rw [assignments_renumber, sources_renumber, option_renumber, targets_renumber]
  | delete d =>
    rw [Renumber.statement, statement, statement]
    dsimp only
    rw [sources_renumber, option_renumber, targets_renumber]
  | truncate _ | define _ | noOp _ | other _ => rfl

end Refer

end TypedSql
