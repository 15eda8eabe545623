import Mathlib.Data.List.Forall2
import Mathlib.Data.Option.Basic
import TypedSql.Proofs.Statement.Numbering

/-!
# Statements with numbers for names

What it means that a statement is another one with numbers in place of names: the trees have the same nodes
with the same data, except that a named parameter becomes a numbered one. Names that stand at no site make the
numbering of a statement fail; in all other cases it answers such a statement, numbers the names in the order
in which they first stand in the text, and edits every site in turn.
-/

namespace TypedSql

mutual

/-- The same expression with numbers in place of names. -/
inductive Expr.Renumbered (number : String → Option Nat) : Expr → Expr → Prop where
  | column (path : List String) : Expr.Renumbered number (.column path) (.column path)
  | star (s : StarRef) : Expr.Renumbered number (.star s) (.star s)
  | param (n : Nat) (location : Option Nat) :
    Expr.Renumbered number (.param n location) (.param n location)
  | named {name : String} {n : Nat} (style : NamedStyle) (h : number name = some n) :
    Expr.Renumbered number (.named name style) (.param n none)
  | literal (l : Literal) : Expr.Renumbered number (.literal l) (.literal l)
  | binary {left left' right right' : Expr} {op : Operator} (hleft : Expr.Renumbered number left left')
    (hright : Expr.Renumbered number right right') :
    Expr.Renumbered number (.binary left op right) (.binary left' op right')
  | unary {op : String} {e e' : Expr} (h : Expr.Renumbered number e e') :
    Expr.Renumbered number (.unary op e) (.unary op e')
  | call {c : Call} {args args' : List Expr} (h : List.Forall₂ (Expr.Renumbered number) args args') :
    Expr.Renumbered number (.call c args) (.call c args')
  | cast {e e' : Expr} {type : TypeName} (h : Expr.Renumbered number e e') :
    Expr.Renumbered number (.cast e type) (.cast e' type)
  | between {e e' low low' high high' : Expr} {negated : Bool} (h : Expr.Renumbered number e e')
    (hlow : Expr.Renumbered number low low') (hhigh : Expr.Renumbered number high high') :
    Expr.Renumbered number (.between e negated low high) (.between e' negated low' high')
  | inList {e e' : Expr} {items items' : List Expr} {negated : Bool} (h : Expr.Renumbered number e e')
    (hitems : List.Forall₂ (Expr.Renumbered number) items items') :
    Expr.Renumbered number (.inList e items negated) (.inList e' items' negated)
  | inQuery {e e' : Expr} {q q' : Query} {negated : Bool} (h : Expr.Renumbered number e e')
    (hq : Query.Renumbered number q q') :
    Expr.Renumbered number (.inQuery e q negated) (.inQuery e' q' negated)
  | exist {q q' : Query} {negated : Bool} (hq : Query.Renumbered number q q') :
    Expr.Renumbered number (.exist q negated) (.exist q' negated)
  | subquery {q q' : Query} (hq : Query.Renumbered number q q') :
    Expr.Renumbered number (.subquery q) (.subquery q')
  | choose {operand operand' otherwise otherwise' : Option Expr}
    {conditions conditions' results results' : List Expr}
    (hoperand : Option.Rel (Expr.Renumbered number) operand operand')
    (hconditions : List.Forall₂ (Expr.Renumbered number) conditions conditions')
    (hresults : List.Forall₂ (Expr.Renumbered number) results results')
    (hotherwise : Option.Rel (Expr.Renumbered number) otherwise otherwise') :
    Expr.Renumbered number (.choose operand conditions results otherwise)
      (.choose operand' conditions' results' otherwise')
  | isNull {e e' : Expr} {negated : Bool} (h : Expr.Renumbered number e e') :
    Expr.Renumbered number (.isNull e negated) (.isNull e' negated)
  | array {items items' : List Expr} (h : List.Forall₂ (Expr.Renumbered number) items items') :
    Expr.Renumbered number (.array items) (.array items')
  | other {kind : String} {params params' : List Expr}
    (h : List.Forall₂ (Expr.Renumbered number) params params') :
    Expr.Renumbered number (.other kind params) (.other kind params')

inductive Query.Renumbered (number : String → Option Nat) : Query → Query → Prop where
  | mk {ctes ctes' : List Cte} {body body' : Body} {orderBy orderBy' : List Expr}
    {limit limit' offset offset' : Option Expr}
    (hctes : List.Forall₂ (Cte.Renumbered number) ctes ctes') (hbody : Body.Renumbered number body body')
    (horderBy : List.Forall₂ (Expr.Renumbered number) orderBy orderBy')
    (hlimit : Option.Rel (Expr.Renumbered number) limit limit')
    (hoffset : Option.Rel (Expr.Renumbered number) offset offset') :
    Query.Renumbered number ⟨ctes, body, orderBy, limit, offset⟩ ⟨ctes', body', orderBy', limit', offset'⟩

inductive Cte.Renumbered (number : String → Option Nat) : Cte → Cte → Prop where
  | mk {name : String} {columns : List String} {q q' : Query} (hq : Query.Renumbered number q q') :
    Cte.Renumbered number ⟨name, columns, q⟩ ⟨name, columns, q'⟩

inductive Body.Renumbered (number : String → Option Nat) : Body → Body → Prop where
  | select {s s' : Select} (h : Select.Renumbered number s s') :
    Body.Renumbered number (.select s) (.select s')
  | setOp {op : SetOperator} {left left' right right' : Body} (hleft : Body.Renumbered number left left')
    (hright : Body.Renumbered number right right') :
    Body.Renumbered number (.setOp op left right) (.setOp op left' right')
  | values {rows rows' : List (List Expr)}
    (h : List.Forall₂ (List.Forall₂ (Expr.Renumbered number)) rows rows') :
    Body.Renumbered number (.values rows) (.values rows')
  | query {q q' : Query} (hq : Query.Renumbered number q q') : Body.Renumbered number (.query q) (.query q')

inductive Select.Renumbered (number : String → Option Nat) : Select → Select → Prop where
  | mk {distinct : Bool} {targets targets' : List Target} {sources sources' : List FromItem}
    {selection selection' having having' : Option Expr} {groupBy groupBy' : List Expr}
    (htargets : List.Forall₂ (Target.Renumbered number) targets targets')
    (hsources : List.Forall₂ (FromItem.Renumbered number) sources sources')
    (hselection : Option.Rel (Expr.Renumbered number) selection selection')
    (hgroupBy : List.Forall₂ (Expr.Renumbered number) groupBy groupBy')
    (hhaving : Option.Rel (Expr.Renumbered number) having having') :
    Select.Renumbered number ⟨distinct, targets, sources, selection, groupBy, having⟩
      ⟨distinct, targets', sources', selection', groupBy', having'⟩

inductive Target.Renumbered (number : String → Option Nat) : Target → Target → Prop where
  | mk {value value' : Expr} {name : Option String} (h : Expr.Renumbered number value value') :
    Target.Renumbered number ⟨value, name⟩ ⟨value', name⟩

inductive FromItem.Renumbered (number : String → Option Nat) : FromItem → FromItem → Prop where
  | range (r : RangeVar) : FromItem.Renumbered number (.range r) (.range r)
  | join {kind : JoinKind} {left left' right right' : FromItem} {condition condition' : Option Expr}
    (hleft : FromItem.Renumbered number left left') (hright : FromItem.Renumbered number right right')
    (hcondition : Option.Rel (Expr.Renumbered number) condition condition') :
    FromItem.Renumbered number (.join kind left right condition) (.join kind left' right' condition')
  | subquery {q q' : Query} {label : Option String} (hq : Query.Renumbered number q q') :
    FromItem.Renumbered number (.subquery q label) (.subquery q' label)
  | other (kind : String) : FromItem.Renumbered number (.other kind) (.other kind)

end

inductive Assignment.Renumbered (number : String → Option Nat) : Assignment → Assignment → Prop where
  | mk {column : String} {value value' : Expr} (h : Expr.Renumbered number value value') :
    Assignment.Renumbered number ⟨column, value⟩ ⟨column, value'⟩

inductive Statement.Renumbered (number : String → Option Nat) : Statement → Statement → Prop where
  | select {q q' : Query} (hq : Query.Renumbered number q q') :
    Statement.Renumbered number (.select q) (.select q')
  | insert {relation : RangeVar} {columns : List String} {source source' : Option Query}
    {onConflict onConflict' : List Assignment} {selection selection' : Option Expr}
    {returning returning' : List Target}
    (hsource : Option.Rel (Query.Renumbered number) source source')
    (honConflict : List.Forall₂ (Assignment.Renumbered number) onConflict onConflict')
    (hselection : Option.Rel (Expr.Renumbered number) selection selection')
    (hreturning : List.Forall₂ (Target.Renumbered number) returning returning') :
    Statement.Renumbered number (.insert ⟨relation, columns, source, onConflict, selection, returning⟩)
      (.insert ⟨relation, columns, source', onConflict', selection', returning'⟩)
  | update {relation : RangeVar} {assignments assignments' : List Assignment}
    {sources sources' : List FromItem} {selection selection' : Option Expr}
    {returning returning' : List Target}
    (hassignments : List.Forall₂ (Assignment.Renumbered number) assignments assignments')
    (hsources : List.Forall₂ (FromItem.Renumbered number) sources sources')
    (hselection : Option.Rel (Expr.Renumbered number) selection selection')
    (hreturning : List.Forall₂ (Target.Renumbered number) returning returning') :
    Statement.Renumbered number (.update ⟨relation, assignments, sources, selection, returning⟩)
      (.update ⟨relation, assignments', sources', selection', returning'⟩)
  | delete {relation : RangeVar} {sources sources' : List FromItem} {selection selection' : Option Expr}
    {returning returning' : List Target}
    (hsources : List.Forall₂ (FromItem.Renumbered number) sources sources')
    (hselection : Option.Rel (Expr.Renumbered number) selection selection')
    (hreturning : List.Forall₂ (Target.Renumbered number) returning returning') :
    Statement.Renumbered number (.delete ⟨relation, sources, selection, returning⟩)
      (.delete ⟨relation, sources', selection', returning'⟩)
  | truncate (relations : List RangeVar) :
    Statement.Renumbered number (.truncate relations) (.truncate relations)
  | define (d : Definition QualifiedName) : Statement.Renumbered number (.define d) (.define d)
  | noOp (kind : String) : Statement.Renumbered number (.noOp kind) (.noOp kind)
  | other (kind : String) : Statement.Renumbered number (.other kind) (.other kind)

namespace Renumber

section

variable {number : String → Option Nat}

-- Each of these follows the tree on the left; the derivation only says which tree stands on the right.
mutual

theorem visits_expr : (e : Expr) → {e' : Expr} → Expr.Renumbered number e e' →
    List.Forall₂ (Expr.Renumbered number) (Visit.expr e) (Visit.expr e')
  | .column path, _, .column _ => .cons (.column path) .nil
  | .star s, _, .star _ => .cons (.star s) .nil
  | .param n location, _, .param _ _ => .cons (.param n location) .nil
  | .named _ style, _, .named _ h => .cons (.named style h) .nil
  | .literal l, _, .literal _ => .cons (.literal l) .nil
  | .binary left _ right, _, .binary hleft hright =>
    .cons (.binary hleft hright) (List.rel_append (visits_expr left hleft) (visits_expr right hright))
  | .unary _ e, _, .unary h => .cons (.unary h) (visits_expr e h)
  | .call _ args, _, .call h => .cons (.call h) (visits_exprs args h)
  | .cast e _, _, .cast h => .cons (.cast h) (visits_expr e h)
  | .between e _ low high, _, .between h hlow hhigh =>
    .cons (.between h hlow hhigh) (List.rel_append
      (List.rel_append (visits_expr e h) (visits_expr low hlow)) (visits_expr high hhigh))
  | .inList e items _, _, .inList h hitems =>
    .cons (.inList h hitems) (List.rel_append (visits_expr e h) (visits_exprs items hitems))
  | .inQuery e q _, _, .inQuery h hq =>
    .cons (.inQuery h hq) (List.rel_append (visits_expr e h) (visits_query q hq))
  | .exist q _, _, .exist hq => .cons (.exist hq) (visits_query q hq)
  | .subquery q, _, .subquery hq => .cons (.subquery hq) (visits_query q hq)
  | .choose operand conditions results otherwise, _, .choose hoperand hconditions hresults hotherwise =>
    .cons (.choose hoperand hconditions hresults hotherwise) (List.rel_append (List.rel_append (List.rel_append
      (visits_option operand hoperand) (visits_exprs conditions hconditions))
      (visits_exprs results hresults)) (visits_option otherwise hotherwise))
  | .isNull e _, _, .isNull h => .cons (.isNull h) (visits_expr e h)
  | .array items, _, .array h => .cons (.array h) (visits_exprs items h)
  | .other _ params, _, .other h => .cons (.other h) (visits_exprs params h)
termination_by structural e => e

theorem visits_exprs : (es : List Expr) → {es' : List Expr} →
    List.Forall₂ (Expr.Renumbered number) es es' →
    List.Forall₂ (Expr.Renumbered number) (Visit.exprs es) (Visit.exprs es')
  | [], _, .nil => .nil
  | e :: es, _, .cons h hs => List.rel_append (visits_expr e h) (visits_exprs es hs)
termination_by structural es => es

theorem visits_option : (e : Option Expr) → {e' : Option Expr} → Option.Rel (Expr.Renumbered number) e e' →
    List.Forall₂ (Expr.Renumbered number) (Visit.option e) (Visit.option e')
  | none, _, .none => .nil
  | some e, _, .some h => visits_expr e h
termination_by structural e => e

theorem visits_query : (q : Query) → {q' : Query} → Query.Renumbered number q q' →
    List.Forall₂ (Expr.Renumbered number) (Visit.query q) (Visit.query q')
  | ⟨ctes, body, orderBy, limit, offset⟩, _, .mk hctes hbody horderBy hlimit hoffset =>
    List.rel_append (List.rel_append (List.rel_append (List.rel_append (visits_ctes ctes hctes)
      (visits_body body hbody)) (visits_exprs orderBy horderBy)) (visits_option limit hlimit))
      (visits_option offset hoffset)
termination_by structural q => q

theorem visits_ctes : (cs : List Cte) → {cs' : List Cte} → List.Forall₂ (Cte.Renumbered number) cs cs' →
    List.Forall₂ (Expr.Renumbered number) (Visit.ctes cs) (Visit.ctes cs')
  | [], _, .nil => .nil
  | c :: cs, _, .cons h hs => List.rel_append (visits_cte c h) (visits_ctes cs hs)
termination_by structural cs => cs

theorem visits_cte : (c : Cte) → {c' : Cte} → Cte.Renumbered number c c' →
    List.Forall₂ (Expr.Renumbered number) (Visit.cte c) (Visit.cte c')
  | ⟨_, _, q⟩, _, .mk hq => visits_query q hq
termination_by structural c => c

theorem visits_body : (b : Body) → {b' : Body} → Body.Renumbered number b b' →
    List.Forall₂ (Expr.Renumbered number) (Visit.body b) (Visit.body b')
  | .select s, _, .select h => visits_select s h
  | .setOp _ left right, _, .setOp hleft hright =>
    List.rel_append (visits_body left hleft) (visits_body right hright)
  | .values rows, _, .values h => visits_rows rows h
  | .query q, _, .query hq => visits_query q hq
termination_by structural b => b

theorem visits_rows : (rows : List (List Expr)) → {rows' : List (List Expr)} →
    List.Forall₂ (List.Forall₂ (Expr.Renumbered number)) rows rows' →
    List.Forall₂ (Expr.Renumbered number) (Visit.rows rows) (Visit.rows rows')
  | [], _, .nil => .nil
  | row :: rows, _, .cons h hs => List.rel_append (visits_exprs row h) (visits_rows rows hs)
termination_by structural rows => rows

theorem visits_select : (s : Select) → {s' : Select} → Select.Renumbered number s s' →
    List.Forall₂ (Expr.Renumbered number) (Visit.select s) (Visit.select s')
  | ⟨_, targets, sources, selection, groupBy, having⟩, _,
      .mk htargets hsources hselection hgroupBy hhaving =>
    List.rel_append (List.rel_append (List.rel_append (List.rel_append (visits_targets targets htargets)
      (visits_sources sources hsources)) (visits_option selection hselection))
      (visits_exprs groupBy hgroupBy)) (visits_option having hhaving)
termination_by structural s => s

theorem visits_targets : (ts : List Target) → {ts' : List Target} →
    List.Forall₂ (Target.Renumbered number) ts ts' →
    List.Forall₂ (Expr.Renumbered number) (Visit.targets ts) (Visit.targets ts')
  | [], _, .nil => .nil
  | t :: ts, _, .cons h hs => List.rel_append (visits_target t h) (visits_targets ts hs)
termination_by structural ts => ts

theorem visits_target : (t : Target) → {t' : Target} → Target.Renumbered number t t' →
    List.Forall₂ (Expr.Renumbered number) (Visit.target t) (Visit.target t')
  | ⟨value, _⟩, _, .mk h => visits_expr value h
termination_by structural t => t

theorem visits_sources : (items : List FromItem) → {items' : List FromItem} →
    List.Forall₂ (FromItem.Renumbered number) items items' →
    List.Forall₂ (Expr.Renumbered number) (Visit.sources items) (Visit.sources items')
  | [], _, .nil => .nil
  | item :: items, _, .cons h hs => List.rel_append (visits_source item h) (visits_sources items hs)
termination_by structural items => items

theorem visits_source : (item : FromItem) → {item' : FromItem} → FromItem.Renumbered number item item' →
    List.Forall₂ (Expr.Renumbered number) (Visit.source item) (Visit.source item')
  | .range _, _, .range _ => .nil
  | .join _ left right condition, _, .join hleft hright hcondition =>
    List.rel_append (List.rel_append (visits_source left hleft) (visits_source right hright))
      (visits_option condition hcondition)
  | .subquery q _, _, .subquery hq => visits_query q hq
  | .other _, _, .other _ => .nil
termination_by structural item => item

end

theorem visits_assignments {as as' : List Assignment} (h : List.Forall₂ (Assignment.Renumbered number) as as') :
    List.Forall₂ (Expr.Renumbered number) (Visit.assignments as) (Visit.assignments as') := by
  induction h with
  | nil => exact .nil
  | cons ha _ ih =>
    obtain ⟨hvalue⟩ := ha
    exact List.rel_append (visits_expr _ hvalue) ih

theorem visits_statement {s s' : Statement} (h : Statement.Renumbered number s s') :
    List.Forall₂ (Expr.Renumbered number) s.exprs s'.exprs := by
  cases h with
  | select hq => exact visits_query _ hq
  | insert hsource honConflict hselection hreturning =>
    refine List.rel_append (List.rel_append (List.rel_append ?_ (visits_assignments honConflict))
      (visits_option _ hselection)) (visits_targets _ hreturning)
    cases hsource with
    | none => exact .nil
    | some hq => exact visits_query _ hq
  | update hassignments hsources hselection hreturning =>
    exact List.rel_append (List.rel_append (List.rel_append (visits_assignments hassignments)
      (visits_sources _ hsources)) (visits_option _ hselection)) (visits_targets _ hreturning)
  | delete hsources hselection hreturning =>
    exact List.rel_append (List.rel_append (visits_sources _ hsources) (visits_option _ hselection))
      (visits_targets _ hreturning)
  | truncate | define | noOp | other => exact .nil

def Covers (number : String → Option Nat) (es : List Expr) : Prop :=
  ∀ name style, .named name style ∈ es → ∃ n, number name = some n

theorem Covers.tail {e : Expr} {es : List Expr} (h : Covers number (e :: es)) : Covers number es :=
  fun name style hmem => h name style (List.mem_cons_of_mem e hmem)

theorem Covers.left {as bs : List Expr} (h : Covers number (as ++ bs)) : Covers number as :=
  fun name style hmem => h name style (List.mem_append_left bs hmem)

theorem Covers.right {as bs : List Expr} (h : Covers number (as ++ bs)) : Covers number bs :=
  fun name style hmem => h name style (List.mem_append_right as hmem)

mutual

theorem renumbered_expr : (e : Expr) → Covers number (Visit.expr e) →
    Expr.Renumbered number e (expr number e)
  | .column path, _ => .column path
  | .star s, _ => .star s
  | .param n location, _ => .param n location
  | .named name style, h => by
    obtain ⟨n, hn⟩ := h name style List.mem_cons_self
    rw [expr, hn]
    exact .named style hn
  | .literal l, _ => .literal l
  | .binary left _ right, h =>
    .binary (renumbered_expr left h.tail.left) (renumbered_expr right h.tail.right)
  | .unary _ e, h => .unary (renumbered_expr e h.tail)
  | .call _ args, h => .call (renumbered_exprs args h.tail)
  | .cast e _, h => .cast (renumbered_expr e h.tail)
  | .between e _ low high, h => .between (renumbered_expr e h.tail.left.left)
      (renumbered_expr low h.tail.left.right) (renumbered_expr high h.tail.right)
  | .inList e items _, h => .inList (renumbered_expr e h.tail.left) (renumbered_exprs items h.tail.right)
  | .inQuery e q _, h => .inQuery (renumbered_expr e h.tail.left) (renumbered_query q h.tail.right)
  | .exist q _, h => .exist (renumbered_query q h.tail)
  | .subquery q, h => .subquery (renumbered_query q h.tail)
  | .choose operand conditions results otherwise, h =>
    .choose (renumbered_option operand h.tail.left.left.left)
      (renumbered_exprs conditions h.tail.left.left.right) (renumbered_exprs results h.tail.left.right)
      (renumbered_option otherwise h.tail.right)
  | .isNull e _, h => .isNull (renumbered_expr e h.tail)
  | .array items, h => .array (renumbered_exprs items h.tail)
  | .other _ params, h => .other (renumbered_exprs params h.tail)

theorem renumbered_exprs : (es : List Expr) → Covers number (Visit.exprs es) →
    List.Forall₂ (Expr.Renumbered number) es (exprs number es)
  | [], _ => .nil
  | e :: es, h => .cons (renumbered_expr e h.left) (renumbered_exprs es h.right)

theorem renumbered_option : (e : Option Expr) → Covers number (Visit.option e) →
    Option.Rel (Expr.Renumbered number) e (option number e)
  | none, _ => .none
  | some e, h => .some (renumbered_expr e h)

theorem renumbered_query : (q : Query) → Covers number (Visit.query q) →
    Query.Renumbered number q (query number q)
  | ⟨named, main, orderBy, limit, offset⟩, h =>
    .mk (renumbered_ctes named h.left.left.left.left) (renumbered_body main h.left.left.left.right)
      (renumbered_exprs orderBy h.left.left.right) (renumbered_option limit h.left.right)
      (renumbered_option offset h.right)

theorem renumbered_ctes : (cs : List Cte) → Covers number (Visit.ctes cs) →
    List.Forall₂ (Cte.Renumbered number) cs (ctes number cs)
  | [], _ => .nil
  | c :: cs, h => .cons (renumbered_cte c h.left) (renumbered_ctes cs h.right)

theorem renumbered_cte : (c : Cte) → Covers number (Visit.cte c) → Cte.Renumbered number c (cte number c)
  | ⟨_, _, q⟩, h => .mk (renumbered_query q h)

theorem renumbered_body : (b : Body) → Covers number (Visit.body b) →
    Body.Renumbered number b (body number b)
  | .select s, h => .select (renumbered_select s h)
  | .setOp _ left right, h => .setOp (renumbered_body left h.left) (renumbered_body right h.right)
  | .values rs, h => .values (renumbered_rows rs h)
  | .query q, h => .query (renumbered_query q h)

theorem renumbered_rows : (rs : List (List Expr)) → Covers number (Visit.rows rs) →
    List.Forall₂ (List.Forall₂ (Expr.Renumbered number)) rs (rows number rs)
  | [], _ => .nil
  | r :: rs, h => .cons (renumbered_exprs r h.left) (renumbered_rows rs h.right)

theorem renumbered_select : (s : Select) → Covers number (Visit.select s) →
    Select.Renumbered number s (select number s)
  | ⟨_, items, from_, selection, groupBy, having⟩, h =>
    .mk (renumbered_targets items h.left.left.left.left) (renumbered_sources from_ h.left.left.left.right)
      (renumbered_option selection h.left.left.right) (renumbered_exprs groupBy h.left.right)
      (renumbered_option having h.right)

theorem renumbered_targets : (ts : List Target) → Covers number (Visit.targets ts) →
    List.Forall₂ (Target.Renumbered number) ts (targets number ts)
  | [], _ => .nil
  | t :: ts, h => .cons (renumbered_target t h.left) (renumbered_targets ts h.right)

theorem renumbered_target : (t : Target) → Covers number (Visit.target t) →
    Target.Renumbered number t (target number t)
  | ⟨value, _⟩, h => .mk (renumbered_expr value h)

theorem renumbered_sources : (items : List FromItem) → Covers number (Visit.sources items) →
    List.Forall₂ (FromItem.Renumbered number) items (sources number items)
  | [], _ => .nil
  | item :: items, h => .cons (renumbered_source item h.left) (renumbered_sources items h.right)

theorem renumbered_source : (item : FromItem) → Covers number (Visit.source item) →
    FromItem.Renumbered number item (source number item)
  | .range r, _ => .range r
  | .join _ left right condition, h =>
    .join (renumbered_source left h.left.left) (renumbered_source right h.left.right)
      (renumbered_option condition h.right)
  | .subquery q _, h => .subquery (renumbered_query q h)
  | .other kind, _ => .other kind

end

theorem renumbered_assignments : (as : List Assignment) → Covers number (Visit.assignments as) →
    List.Forall₂ (Assignment.Renumbered number) as (as.map (assignment number))
  | [], _ => .nil
  | ⟨_, value⟩ :: as, h => .cons (.mk (renumbered_expr value h.left)) (renumbered_assignments as h.right)

theorem renumbered_statement {s : Statement} (h : Covers number s.exprs) :
    Statement.Renumbered number s (statement number s) := by
  cases s with
  | select q => exact .select (renumbered_query q h)
  | insert i =>
    obtain ⟨relation, columns, source, onConflict, selection, returning⟩ := i
    refine .insert ?_ (renumbered_assignments onConflict h.left.left.right)
      (renumbered_option selection h.left.right) (renumbered_targets returning h.right)
    cases source with
    | none => exact .none
    | some q => exact .some (renumbered_query q h.left.left.left)
  | update u =>
    obtain ⟨relation, assignments, from_, selection, returning⟩ := u
    exact .update (renumbered_assignments assignments h.left.left.left)
      (renumbered_sources from_ h.left.left.right) (renumbered_option selection h.left.right)
      (renumbered_targets returning h.right)
  | delete d =>
    obtain ⟨relation, from_, selection, returning⟩ := d
    exact .delete (renumbered_sources from_ h.left.left) (renumbered_option selection h.left.right)
      (renumbered_targets returning h.right)
  | truncate relations => exact .truncate relations
  | define d => exact .define d
  | noOp kind => exact .noOp kind
  | other kind => exact .other kind

end

end Renumber

theorem Expr.Renumbered.ne_named {number : String → Option Nat} {e e' : Expr}
    (h : Expr.Renumbered number e e') (name : String) (style : NamedStyle) : e' ≠ .named name style := by
  rintro rfl
  cases h

namespace Numbered

theorem number?_ofSites_eq_some_iff {sites : List NamedSite} {name : String} {k : Nat} :
    (ofSites {} sites).1.number? name = some k ↔
      ∃ i, k = i + 1 ∧ (sites.map NamedSite.name).eraseDups[i]? = some name := by
  have hcollects := ParamSet.collects_addAll (sites.map NamedSite.occurrence)
  have hnames : (sites.map NamedSite.occurrence).map Prod.fst = sites.map NamedSite.name := by
    rw [List.map_map]
    rfl
  rw [ofSites_params, hcollects.inStep name k, hcollects.names_eq, hnames]

theorem ofSites_edits (set : ParamSet) (sites : List NamedSite) :
    List.Forall₂ (fun site e => ∃ k, (ofSites set sites).1.number? site.name = some k ∧ e = site.edit k)
      sites (ofSites set sites).2 := by
  induction sites generalizing set with
  | nil => exact .nil
  | cons site sites ih =>
    exact .cons ⟨_, number?_ofSites_head set site sites, rfl⟩ (ih (set.add site.name site.style).1)

/-- What the numbered form of a statement is, with the names of some sites. -/
structure NumbersNames (s : Statement) (sites : List NamedSite) (n : Numbered) : Prop where
  tree : Statement.Renumbered n.params.number? s n.statement
  visits : List.Forall₂ (Expr.Renumbered n.params.number?) s.exprs n.statement.exprs
  unnamed : ∀ name style, .named name style ∉ n.statement.exprs
  ordinals : ∀ name k, n.params.number? name = some k ↔
    ∃ i, k = i + 1 ∧ (sites.map NamedSite.name).eraseDups[i]? = some name
  apart : ∀ a ∈ sites, ∀ b ∈ sites, n.params.number? a.name = n.params.number? b.name → a.name = b.name
  edits : List.Forall₂ (fun site e => ∃ k, n.params.number? site.name = some k ∧ e = site.edit k)
    sites n.edits

theorem covers_of_unplaced? {set : ParamSet} {s : Statement} (h : unplaced? set s = none) :
    Renumber.Covers set.number? s.exprs :=
  fun _ _ hnamed => Option.ne_none_iff_exists'.mp (number?_ne_none_of_unplaced? h hnamed)

theorem numbersNames_of_unplaced? {s : Statement} {sites : List NamedSite}
    (h : unplaced? (ofSites {} sites).1 s = none) :
    NumbersNames s sites { statement := Renumber.statement (ofSites {} sites).1.number? s,
                           params := (ofSites {} sites).1, edits := (ofSites {} sites).2 } := by
  have htree := Renumber.renumbered_statement (covers_of_unplaced? h)
  have hvisits := Renumber.visits_statement htree
  refine { tree := htree, visits := hvisits, unnamed := ?_,
           ordinals := fun _ _ => number?_ofSites_eq_some_iff, apart := ?_, edits := ofSites_edits {} sites }
  · intro name style hmem
    obtain ⟨i, hi, heq⟩ := List.getElem_of_mem hmem
    exact (hvisits.get (hvisits.length_eq ▸ hi) hi).ne_named name style heq
  · intro a ha b hb hsame
    obtain ⟨k, hk⟩ := Option.ne_none_iff_exists'.mp fun hnone =>
      number?_ofSites_eq_none_iff.mp hnone a ha rfl
    obtain ⟨i, rfl, hi⟩ := number?_ofSites_eq_some_iff.mp hk
    obtain ⟨j, hij, hj⟩ := number?_ofSites_eq_some_iff.mp (hsame ▸ hk)
    cases Nat.succ.inj hij
    exact Option.some.inj (hi.symm.trans hj)

/-- Numbering fails exactly where a named parameter stands at none of the sites. In all other cases only named
parameters change, each to the number of its name, and all sites are edited. -/
theorem ofStatement_numbers (s : Statement) (sites : List NamedSite) :
    ((∃ e, ofStatement s sites = .error e) ↔
      ∃ name style, .named name style ∈ s.exprs ∧ ∀ site ∈ sites, site.name ≠ name) ∧
    ∀ n, ofStatement s sites = .ok n → NumbersNames s sites n := by
  refine ⟨⟨?_, ?_⟩, fun n hn => ?_⟩
  · rintro ⟨e, he⟩
    obtain ⟨name, style, hnamed, hsites, -⟩ := exists_of_ofStatement_eq_error he
    exact ⟨name, style, hnamed, hsites⟩
  · rintro ⟨name, style, hnamed, hsites⟩
    cases h : ofStatement s sites with
    | error e => exact ⟨e, rfl⟩
    | ok n => exact absurd hsites (exists_site_of_ofStatement h hnamed)
  · obtain ⟨hplaced, rfl⟩ := ofStatement_eq_ok hn
    exact numbersNames_of_unplaced? hplaced

theorem ofStatement_numbers_repeated :
    let s : Statement :=
      .select ⟨[], .values [[.named "b" .sigil, .named "a" .sigil, .named "b" .sigil]], [], none, none⟩
    let sites : List NamedSite :=
      [⟨8, "@b".toList, "b", .sigil⟩, ⟨12, "@a".toList, "a", .sigil⟩, ⟨16, "@b".toList, "b", .sigil⟩]
    ∃ n, ofStatement s sites = .ok n ∧ NumbersNames s sites n ∧ n.params.number? "b" = some 1 ∧
      n.params.number? "a" = some 2 ∧ n.edits.map (String.ofList ·.new) = ["$1", "$2", "$1"] := by
  intro s sites
  exact ⟨_, rfl, (ofStatement_numbers s sites).2 _ rfl, by decide, by decide, by decide⟩

end Numbered

end TypedSql
