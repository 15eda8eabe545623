import TypedSql.Lower
import TypedSql.Proofs.Fallible
import TypedSql.Statement.Visit

/-!
# Wildcards and their sites

Reading a statement claims a site for each of its wildcards, one after another. A wildcard takes the first
site of its form that is left, and has no place if there is none. The wildcards of the tree are the ones
that were claimed for.
-/

namespace TypedSql

def Expr.star? : Expr → Option StarRef
  | .star r => some r
  | _ => none

def Statement.stars (s : Statement) : List StarRef :=
  s.exprs.filterMap Expr.star?

def StarSite.ref (site : StarSite) : StarRef :=
  { qualifier := site.qualifier, location := some site.location, text := site.text, embed := site.embed }

/-- Wildcards, one after another, claim sites of the first list, and those of the second are left. -/
inductive Claims : List StarSite → List StarRef → List StarSite → Prop
  | nil (left : List StarSite) : Claims left [] left
  | found {site : StarSite} {left rest left' : List StarSite} {rs : List StarRef} :
    Lower.claim? site.embed site.qualifier left = some (site, rest) → Claims rest rs left' →
      Claims left (site.ref :: rs) left'
  | missed {r : StarRef} {left left' : List StarSite} {rs : List StarRef} :
    r.location = none → Lower.claim? r.embed r.qualifier left = none → Claims left rs left' →
      Claims left (r :: rs) left'

theorem Claims.append {left mid left' : List StarSite} {rs rs' : List StarRef} (h : Claims left rs mid)
    (h' : Claims mid rs' left') : Claims left (rs ++ rs') left' := by
  induction h with
  | nil => exact h'
  | found hclaim _ ih => exact .found hclaim (ih h')
  | missed hlocation hclaim _ ih => exact .missed hlocation hclaim (ih h')

def starCount (r : StarRef) (es : List Expr) : Nat :=
  (es.filterMap Expr.star?).count r

section

variable (r : StarRef) (e : Expr) (es fs : List Expr)

@[simp]
theorem starCount_nil : starCount r [] = 0 :=
  rfl

@[simp]
theorem starCount_append : starCount r (es ++ fs) = starCount r es + starCount r fs := by
  simp [starCount]

@[simp]
theorem starCount_cons :
    starCount r (e :: es) = (if e.star? = some r then 1 else 0) + starCount r es := by
  rw [← List.singleton_append, starCount_append]
  congr 1
  rw [starCount, List.filterMap_cons]
  cases e.star? with
  | none => simp
  | some r => simp [List.count_singleton]

end

@[simp]
theorem Visit.exprs_append (a b : List Expr) : Visit.exprs (a ++ b) = Visit.exprs a ++ Visit.exprs b := by
  induction a with
  | nil => rfl
  | cons e a ih => rw [List.cons_append, Visit.exprs, Visit.exprs, ih, List.append_assoc]

namespace Lower

variable {α β : Type}

/-- Where a reading succeeds, the wildcards of its result are those of the expressions `es` that it stands
behind and the ones that it has claimed sites for. A reading never fails because sites are missing. -/
structure Conserves (es : List Expr) (m : Lower α) (visit : α → List Expr) : Prop where
  claims : ∀ left a left', m.run left = .ok (a, left') →
    ∃ rs, Claims left rs left' ∧ ∀ r, starCount r (visit a) = starCount r es + rs.count r
  consistent : ∀ left, Consistent (m.run left)

theorem conserves_pure {es : List Expr} {visit : α → List Expr} {a : α}
    (h : ∀ r, starCount r (visit a) = starCount r es) : Conserves es (pure a) visit := by
  refine ⟨?_, fun _ => consistent_ok _⟩
  rintro left _ _ ⟨⟩
  exact ⟨[], .nil left, h⟩

theorem conserves_throw (es : List Expr) (visit : α → List Expr) {e : Error}
    (he : e.isInconsistency = false) : Conserves es (throw e : Lower α) visit := by
  refine ⟨?_, fun _ => consistent_error he⟩
  rintro left _ _ ⟨⟩

theorem Conserves.bind {es : List Expr} {m : Lower α} {k : α → Lower β} {visit : α → List Expr}
    {visit' : β → List Expr} (hm : Conserves [] m visit)
    (hk : ∀ a, Conserves (es ++ visit a) (k a) visit') : Conserves es (m >>= k) visit' := by
  constructor
  · intro left b left' h
    rw [StateT.run_bind, bind_eq_ok, Prod.exists] at h
    obtain ⟨a, mid, hrun, h⟩ := h
    obtain ⟨rs, hclaims, hfirst⟩ := hm.claims left a mid hrun
    obtain ⟨rs', hclaims', hrest⟩ := (hk a).claims mid b left' h
    refine ⟨rs ++ rs', hclaims.append hclaims', fun r => ?_⟩
    rw [hrest, starCount_append, hfirst, starCount_nil, List.count_append]
    omega
  · intro left
    rw [StateT.run_bind]
    exact (hm.consistent left).bind fun ⟨a, mid⟩ _ => (hk a).consistent mid

theorem conserves_pure_bind {es : List Expr} {a : α} {k : α → Lower β} {visit : β → List Expr}
    (h : Conserves es (k a) visit) : Conserves es (pure a >>= k) visit := by
  rwa [pure_bind]

theorem conserves_lift_bind {es : List Expr} {x : Except Error α} {k : α → Lower β}
    {visit : β → List Expr} (hx : Consistent x) (h : ∀ a, x = .ok a → Conserves es (k a) visit) :
    Conserves es (liftM x >>= k : Lower β) visit := by
  cases x with
  | error e => exact conserves_throw es visit (hx e rfl)
  | ok a => exact h a rfl

theorem claim?_eq_some {embed : Bool} {qualifier : List String} {sites left : List StarSite}
    {site : StarSite} (h : claim? embed qualifier sites = some (site, left)) :
    site.embed = embed ∧ site.qualifier = qualifier ∧ sites.Perm (site :: left) := by
  induction sites generalizing left with
  | nil => cases h
  | cons s sites ih =>
    rw [claim?] at h
    split at h
    · rename_i hs
      cases h
      exact ⟨hs.1, hs.2, .refl _⟩
    · obtain ⟨⟨found, others⟩, hfound, ⟨⟩⟩ := Option.map_eq_some_iff.mp h
      obtain ⟨hembed, hqualifier, hperm⟩ := ih hfound
      exact ⟨hembed, hqualifier, (hperm.cons s).trans (.swap _ _ _)⟩

theorem claim_conserves (embed : Bool) (qualifier : List String) (text : String) :
    Conserves [] (claim embed qualifier text) Visit.expr := by
  have hcount : ∀ r s : StarRef, starCount s (Visit.expr (.star r)) = starCount s [] + [r].count s := by
    intro r s
    simp [Visit.expr, Expr.star?, List.count_singleton]
  constructor
  · intro left e left' h
    rw [claim, StateT.run_bind, StateT.run_get, pure_bind] at h
    dsimp only at h
    split at h
    · rename_i found rest hclaim
      cases h
      obtain ⟨rfl, rfl, -⟩ := claim?_eq_some hclaim
      exact ⟨[found.ref], .found hclaim (.nil _), hcount found.ref⟩
    · rename_i hclaim
      cases h
      exact ⟨[_], .missed rfl hclaim (.nil _), hcount _⟩
  · intro left
    rw [claim, StateT.run_bind, StateT.run_get, pure_bind]
    dsimp only
    split <;> exact consistent_ok _

theorem star_conserves (qualifier : List String) : Conserves [] (star qualifier) Visit.expr :=
  claim_conserves _ _ _

theorem embed_conserves (qualifier : List String) : Conserves [] (embed qualifier) Visit.expr :=
  claim_conserves _ _ _

theorem parameter?_starCount {sites : Sites} {e : Sql.Expr} {p : Option Expr}
    (h : parameter? sites e = .ok p) (r : StarRef) : starCount r (Visit.exprs p.toList) = 0 := by
  unfold parameter? at h
  split at h
  · split at h
    · cases h
      rfl
    · cases h
  · cases h
    split <;> rfl
  · split at h <;> cases h <;> rfl
  · cases h
    rfl

theorem consistent_parameter? (sites : Sites) (e : Sql.Expr) : Consistent (parameter? sites e) := by
  unfold parameter?
  split
  · split
    · exact consistent_ok _
    · exact consistent_error rfl
  · exact consistent_ok _
  · split <;> exact consistent_ok _
  · exact consistent_ok _

theorem conserves_here {sites : Sites} {e : Sql.Expr} {k : Option Expr → Lower α} {visit : α → List Expr}
    (h : ∀ p, parameter? sites e = .ok p → Conserves [] (k p) visit) :
    Conserves [] (liftM (parameter? sites e) >>= k) visit :=
  conserves_lift_bind (consistent_parameter? sites e) h

theorem conserves_parameter {sites : Sites} {e : Sql.Expr} {m : Lower Expr}
    (h : Conserves [] m Visit.expr) :
    Conserves [] (liftM (parameter? sites e) >>= fun
      | some param => pure param
      | none => m) Visit.expr := by
  refine conserves_here fun p hp => ?_
  cases p with
  | none => exact h
  | some p => exact conserves_pure fun r => by simpa [Visit.exprs] using parameter?_starCount hp r

theorem consistent_tableName (n : Sql.ObjectName) : Consistent (tableName n) := by
  unfold tableName
  split
  · exact consistent_ok _
  · exact consistent_error rfl

mutual

theorem expr_conserves (sites : Sites) : (e : Sql.Expr) → Conserves [] (expr sites e) Visit.expr
  | .ident id => by
    rw [expr]
    exact conserves_parameter (conserves_pure fun r => by simp [Visit.expr, Expr.star?])
  | .compound ids => by
    rw [expr]
    exact conserves_parameter (conserves_pure fun r => by simp [Visit.expr, Expr.star?])
  | .value v => by
    rw [expr]
    exact conserves_parameter (conserves_pure fun r => by simp [Visit.expr, Expr.star?])
  | .nested inner => by
    rw [expr]
    exact conserves_parameter (expr_conserves sites inner)
  | .binary left op _ right _ => by
    rw [expr]
    exact conserves_parameter ((expr_conserves sites left).bind fun _ =>
      (expr_conserves sites right).bind fun _ =>
        conserves_pure fun r => by simp [Visit.expr, Expr.star?])
  | .unary op inner => by
    rw [expr]
    exact conserves_parameter ((expr_conserves sites inner).bind fun _ =>
      conserves_pure fun r => by simp [Visit.expr, Expr.star?])
  | .cast _ inner type => by
    rw [expr]
    exact conserves_parameter ((expr_conserves sites inner).bind fun _ =>
      conserves_pure fun r => by simp [Visit.expr, Expr.star?])
  | .call name args _ _ _ => by
    rw [expr]
    exact conserves_parameter ((callArgs_conserves sites args).bind fun _ =>
      conserves_pure fun r => by simp [Visit.expr, Expr.star?])
  | .between inner negated low high => by
    rw [expr]
    exact conserves_parameter ((expr_conserves sites inner).bind fun _ =>
      (expr_conserves sites low).bind fun _ => (expr_conserves sites high).bind fun _ =>
        conserves_pure fun r => by simp [Visit.expr, Expr.star?])
  | .inList inner items negated => by
    rw [expr]
    exact conserves_parameter ((expr_conserves sites inner).bind fun _ =>
      (exprs_conserves sites items).bind fun _ =>
        conserves_pure fun r => by simp [Visit.expr, Expr.star?])
  | .inQuery inner q negated => by
    rw [expr]
    exact conserves_parameter ((expr_conserves sites inner).bind fun _ =>
      (query_conserves sites q).bind fun _ =>
        conserves_pure fun r => by simp [Visit.expr, Expr.star?])
  | .exist q negated => by
    rw [expr]
    exact conserves_parameter ((query_conserves sites q).bind fun _ =>
      conserves_pure fun r => by simp [Visit.expr, Expr.star?])
  | .subquery q => by
    rw [expr]
    exact conserves_parameter ((query_conserves sites q).bind fun _ =>
      conserves_pure fun r => by simp [Visit.expr, Expr.star?])
  | .choose operand branches otherwise => by
    rw [expr]
    exact conserves_parameter ((expr?_conserves sites operand).bind fun _ =>
      (conditions_conserves sites branches).bind fun _ => (results_conserves sites branches).bind fun _ =>
        (expr?_conserves sites otherwise).bind fun _ =>
          conserves_pure fun r => by simp [Visit.expr, Expr.star?])
  | .isNull inner negated => by
    rw [expr]
    exact conserves_parameter ((expr_conserves sites inner).bind fun _ =>
      conserves_pure fun r => by simp [Visit.expr, Expr.star?])
  | .array _ items => by
    rw [expr]
    exact conserves_parameter ((exprs_conserves sites items).bind fun _ =>
      conserves_pure fun r => by simp [Visit.expr, Expr.star?])
  | .other kind pieces => by
    rw [expr]
    refine conserves_parameter ?_
    split
    · exact (paramsFromLast_conserves sites pieces).bind fun _ =>
        conserves_pure fun r => by simp [Visit.expr, Expr.star?]
    · exact (paramsFromFirst_conserves sites pieces).bind fun _ =>
        conserves_pure fun r => by simp [Visit.expr, Expr.star?]

theorem exprs_conserves (sites : Sites) :
    (es : List Sql.Expr) → Conserves [] (exprs sites es) Visit.exprs
  | [] => conserves_pure fun _ => rfl
  | e :: es => (expr_conserves sites e).bind fun _ => (exprs_conserves sites es).bind fun _ =>
      conserves_pure fun r => by simp [Visit.exprs]

theorem expr?_conserves (sites : Sites) :
    (e : Option Sql.Expr) → Conserves [] (expr? sites e) Visit.option
  | none => conserves_pure fun _ => rfl
  | some e => (expr_conserves sites e).bind fun _ =>
      conserves_pure fun r => by simp [Visit.option]

theorem conditions_conserves (sites : Sites) :
    (bs : List Sql.Branch) → Conserves [] (conditions sites bs) Visit.exprs
  | [] => conserves_pure fun _ => rfl
  | ⟨condition, _⟩ :: bs => (expr_conserves sites condition).bind fun _ =>
      (conditions_conserves sites bs).bind fun _ =>
        conserves_pure fun r => by simp [Visit.exprs]

theorem results_conserves (sites : Sites) :
    (bs : List Sql.Branch) → Conserves [] (results sites bs) Visit.exprs
  | [] => conserves_pure fun _ => rfl
  | ⟨_, result⟩ :: bs => (expr_conserves sites result).bind fun _ =>
      (results_conserves sites bs).bind fun _ =>
        conserves_pure fun r => by simp [Visit.exprs]

theorem callArgs_conserves (sites : Sites) :
    (args : Sql.Args) → Conserves [] (callArgs sites args) Visit.exprs
  | .none => conserves_pure fun _ => rfl
  | .query q => (query_conserves sites q).bind fun _ =>
      conserves_pure fun r => by simp [Visit.exprs, Visit.expr, Expr.star?]
  | .list _ args _ => argList_conserves sites args

theorem argList_conserves (sites : Sites) :
    (args : List Sql.Arg) → Conserves [] (argList sites args) Visit.exprs
  | [] => conserves_pure fun _ => rfl
  | .positional v :: args => (argValue_conserves sites v).bind fun _ =>
      (argList_conserves sites args).bind fun _ => conserves_pure fun r => by simp
  | .named _ _ v :: args => (argValue_conserves sites v).bind fun _ =>
      (argList_conserves sites args).bind fun _ => conserves_pure fun r => by simp

theorem argValue_conserves (sites : Sites) :
    (v : Sql.ArgValue) → Conserves [] (argValue sites v) Visit.exprs
  | .expr e => (expr_conserves sites e).bind fun _ =>
      conserves_pure fun r => by simp [Visit.exprs]
  | .star _ => conserves_pure fun _ => rfl

theorem params_conserves (sites : Sites) :
    (e : Sql.Expr) → Conserves [] (params sites e) Visit.exprs
  | .ident _ => by
    rw [params]
    exact conserves_here fun here hhere => conserves_pure_bind
      (conserves_pure fun r => by simp [parameter?_starCount hhere])
  | .compound _ => by
    rw [params]
    exact conserves_here fun here hhere => conserves_pure_bind
      (conserves_pure fun r => by simp [parameter?_starCount hhere])
  | .value _ => by
    rw [params]
    exact conserves_here fun here hhere => conserves_pure_bind
      (conserves_pure fun r => by simp [parameter?_starCount hhere])
  | .nested inner => by
    rw [params]
    exact conserves_here fun here hhere => (params_conserves sites inner).bind fun _ =>
      conserves_pure fun r => by simp [parameter?_starCount hhere]
  | .binary left _ _ right _ => by
    rw [params]
    exact conserves_here fun here hhere => (params_conserves sites left).bind fun _ =>
      (params_conserves sites right).bind fun _ => conserves_pure_bind
        (conserves_pure fun r => by simp [parameter?_starCount hhere])
  | .unary _ inner => by
    rw [params]
    exact conserves_here fun here hhere => (params_conserves sites inner).bind fun _ =>
      conserves_pure fun r => by simp [parameter?_starCount hhere]
  | .cast _ inner _ => by
    rw [params]
    exact conserves_here fun here hhere => (params_conserves sites inner).bind fun _ =>
      conserves_pure fun r => by simp [parameter?_starCount hhere]
  | .call _ args group tail _ => by
    rw [params]
    exact conserves_here fun here hhere => (argsParams_conserves sites args).bind fun _ =>
      (paramsFromFirst_conserves sites tail).bind fun _ =>
        (paramsFromFirst_conserves sites group).bind fun _ => conserves_pure_bind
          (conserves_pure fun r => by simp [parameter?_starCount hhere])
  | .between inner _ low high => by
    rw [params]
    exact conserves_here fun here hhere => (params_conserves sites inner).bind fun _ =>
      (params_conserves sites low).bind fun _ => (params_conserves sites high).bind fun _ =>
        conserves_pure_bind (conserves_pure fun r => by simp [parameter?_starCount hhere])
  | .inList inner items _ => by
    rw [params]
    exact conserves_here fun here hhere => (params_conserves sites inner).bind fun _ =>
      (listParams_conserves sites items).bind fun _ => conserves_pure_bind
        (conserves_pure fun r => by simp [parameter?_starCount hhere])
  | .inQuery inner q _ => by
    rw [params]
    exact conserves_here fun here hhere => (params_conserves sites inner).bind fun _ =>
      (query_conserves sites q).bind fun _ => conserves_pure_bind
        (conserves_pure fun r => by
          simp [parameter?_starCount hhere, Visit.exprs, Visit.expr, Expr.star?])
  | .exist q _ => by
    rw [params]
    exact conserves_here fun here hhere => (query_conserves sites q).bind fun _ =>
      conserves_pure_bind (conserves_pure fun r => by
        simp [parameter?_starCount hhere, Visit.exprs, Visit.expr, Expr.star?])
  | .subquery q => by
    rw [params]
    exact conserves_here fun here hhere => (query_conserves sites q).bind fun _ =>
      conserves_pure_bind (conserves_pure fun r => by
        simp [parameter?_starCount hhere, Visit.exprs, Visit.expr, Expr.star?])
  | .choose operand branches otherwise => by
    rw [params]
    exact conserves_here fun here hhere => (params?_conserves sites operand).bind fun _ =>
      (conditionParams_conserves sites branches).bind fun _ =>
        (resultParams_conserves sites branches).bind fun _ =>
          (params?_conserves sites otherwise).bind fun _ => conserves_pure_bind
            (conserves_pure fun r => by simp [parameter?_starCount hhere])
  | .isNull inner _ => by
    rw [params]
    exact conserves_here fun here hhere => (params_conserves sites inner).bind fun _ =>
      conserves_pure fun r => by simp [parameter?_starCount hhere]
  | .array _ items => by
    rw [params]
    exact conserves_here fun here hhere => (listParams_conserves sites items).bind fun _ =>
      conserves_pure fun r => by simp [parameter?_starCount hhere]
  | .other kind pieces => by
    rw [params]
    refine conserves_here fun here hhere => ?_
    dsimp only
    split
    · exact (paramsFromLast_conserves sites pieces).bind fun _ =>
        conserves_pure fun r => by simp [parameter?_starCount hhere]
    · exact (paramsFromFirst_conserves sites pieces).bind fun _ =>
        conserves_pure fun r => by simp [parameter?_starCount hhere]

theorem listParams_conserves (sites : Sites) :
    (es : List Sql.Expr) → Conserves [] (listParams sites es) Visit.exprs
  | [] => conserves_pure fun _ => rfl
  | e :: es => (params_conserves sites e).bind fun _ => (listParams_conserves sites es).bind fun _ =>
      conserves_pure fun r => by simp

theorem params?_conserves (sites : Sites) :
    (e : Option Sql.Expr) → Conserves [] (params? sites e) Visit.exprs
  | none => conserves_pure fun _ => rfl
  | some e => params_conserves sites e

theorem conditionParams_conserves (sites : Sites) :
    (bs : List Sql.Branch) → Conserves [] (conditionParams sites bs) Visit.exprs
  | [] => conserves_pure fun _ => rfl
  | ⟨condition, _⟩ :: bs => (params_conserves sites condition).bind fun _ =>
      (conditionParams_conserves sites bs).bind fun _ => conserves_pure fun r => by simp

theorem resultParams_conserves (sites : Sites) :
    (bs : List Sql.Branch) → Conserves [] (resultParams sites bs) Visit.exprs
  | [] => conserves_pure fun _ => rfl
  | ⟨_, result⟩ :: bs => (params_conserves sites result).bind fun _ =>
      (resultParams_conserves sites bs).bind fun _ => conserves_pure fun r => by simp

theorem argsParams_conserves (sites : Sites) :
    (args : Sql.Args) → Conserves [] (argsParams sites args) Visit.exprs
  | .none => conserves_pure fun _ => rfl
  | .query q => (query_conserves sites q).bind fun _ =>
      conserves_pure fun r => by simp [Visit.exprs, Visit.expr, Expr.star?]
  | .list _ args clauses => (argListParams_conserves sites args).bind fun _ =>
      (paramsFromFirst_conserves sites clauses).bind fun _ => conserves_pure fun r => by simp

theorem argListParams_conserves (sites : Sites) :
    (args : List Sql.Arg) → Conserves [] (argListParams sites args) Visit.exprs
  | [] => conserves_pure fun _ => rfl
  | .positional v :: args => (valueParams_conserves sites v).bind fun _ =>
      (argListParams_conserves sites args).bind fun _ => conserves_pure fun r => by simp
  | .named name _ v :: args => (params_conserves sites name).bind fun _ =>
      (valueParams_conserves sites v).bind fun _ => (argListParams_conserves sites args).bind fun _ =>
        conserves_pure fun r => by simp

theorem valueParams_conserves (sites : Sites) :
    (v : Sql.ArgValue) → Conserves [] (valueParams sites v) Visit.exprs
  | .expr e => params_conserves sites e
  | .star _ => conserves_pure fun _ => rfl

theorem pieceParams_conserves (sites : Sites) :
    (p : Sql.Piece) → Conserves [] (pieceParams sites p) Visit.exprs
  | .text _ => conserves_pure fun _ => rfl
  | .expr e => params_conserves sites e
  | .query q => (query_conserves sites q).bind fun _ =>
      conserves_pure fun r => by simp [Visit.exprs, Visit.expr, Expr.star?]

theorem paramsFromFirst_conserves (sites : Sites) :
    (ps : List Sql.Piece) → Conserves [] (paramsFromFirst sites ps) Visit.exprs
  | [] => conserves_pure fun _ => rfl
  | p :: ps => (pieceParams_conserves sites p).bind fun _ =>
      (paramsFromFirst_conserves sites ps).bind fun _ => conserves_pure fun r => by simp

theorem paramsFromLast_conserves (sites : Sites) :
    (ps : List Sql.Piece) → Conserves [] (paramsFromLast sites ps) Visit.exprs
  | [] => conserves_pure fun _ => rfl
  | p :: ps => (paramsFromLast_conserves sites ps).bind fun _ =>
      (pieceParams_conserves sites p).bind fun _ => conserves_pure fun r => by simp

theorem query_conserves (sites : Sites) : (q : Sql.Query) → Conserves [] (query sites q) Visit.query
  | ⟨_, ctes, b, orderBy, limit, offset, _, _⟩ =>
    (cteList_conserves sites ctes).bind fun _ => (body_conserves sites b).bind fun _ =>
      (orderList_conserves sites orderBy).bind fun _ => (expr?_conserves sites limit).bind fun _ =>
        (expr?_conserves sites offset).bind fun _ =>
          conserves_pure fun r => by simp [Visit.query]

theorem orderList_conserves (sites : Sites) :
    (os : List Sql.OrderItem) → Conserves [] (orderList sites os) Visit.exprs
  | [] => conserves_pure fun _ => rfl
  | ⟨e, _⟩ :: os => (expr_conserves sites e).bind fun _ => (orderList_conserves sites os).bind fun _ =>
      conserves_pure fun r => by simp [Visit.exprs]

theorem cteList_conserves (sites : Sites) :
    (cs : List Sql.Cte) → Conserves [] (cteList sites cs) Visit.ctes
  | [] => conserves_pure fun _ => rfl
  | ⟨_, _, q, _⟩ :: cs => (query_conserves sites q).bind fun _ =>
      (cteList_conserves sites cs).bind fun _ =>
        conserves_pure fun r => by simp [Visit.ctes, Visit.cte]

theorem body_conserves (sites : Sites) : (b : Sql.Body) → Conserves [] (body sites b) Visit.body
  | .select s => (select_conserves sites s).bind fun _ =>
      conserves_pure fun r => by simp [Visit.body]
  | .query q => (query_conserves sites q).bind fun _ =>
      conserves_pure fun r => by simp [Visit.body]
  | .setOp _ _ left right => (body_conserves sites left).bind fun _ =>
      (body_conserves sites right).bind fun _ => conserves_pure fun r => by simp [Visit.body]
  | .values _ rows => (rowList_conserves sites rows).bind fun _ =>
      conserves_pure fun r => by simp [Visit.body]
  | .unsupported _ _ => conserves_throw _ _ rfl

theorem rowList_conserves (sites : Sites) :
    (rs : List (List Sql.Expr)) → Conserves [] (rowList sites rs) Visit.rows
  | [] => conserves_pure fun _ => rfl
  | r :: rs => (exprs_conserves sites r).bind fun _ => (rowList_conserves sites rs).bind fun _ =>
      conserves_pure fun r => by simp [Visit.rows]

theorem select_conserves (sites : Sites) :
    (s : Sql.Select) → Conserves [] (select sites s) Visit.select
  | ⟨_, _, items, _, tables, _, selection, _, groupBy, _, having, _⟩ =>
    (targetList_conserves sites items).bind fun _ => (tablesList_conserves sites tables).bind fun _ =>
      (exprs_conserves sites groupBy).bind fun _ => (expr?_conserves sites selection).bind fun _ =>
        (expr?_conserves sites having).bind fun _ => conserves_pure fun r => by
          simp [Visit.select]
          omega

theorem targetList_conserves (sites : Sites) :
    (is : List Sql.SelectItem) → Conserves [] (targetList sites is) Visit.targets
  | [] => conserves_pure fun _ => rfl
  | i :: is => (target_conserves sites i).bind fun _ => (targetList_conserves sites is).bind fun _ =>
      conserves_pure fun r => by simp [Visit.targets]

theorem target_conserves (sites : Sites) :
    (i : Sql.SelectItem) → Conserves [] (target sites i) Visit.target
  | .expr e => by
    rw [target]
    split
    · exact (embed_conserves _).bind fun _ => conserves_pure fun r => by simp [Visit.target]
    · exact (expr_conserves sites e).bind fun _ => conserves_pure fun r => by simp [Visit.target]
  | .aliased e _ => (expr_conserves sites e).bind fun _ =>
      conserves_pure fun r => by simp [Visit.target]
  | .star qualifier => (star_conserves qualifier.names).bind fun _ =>
      conserves_pure fun r => by simp [Visit.target]

theorem tablesList_conserves (sites : Sites) :
    (ts : List Sql.Tables) → Conserves [] (tablesList sites ts) Visit.sources
  | [] => conserves_pure fun _ => rfl
  | t :: ts => (tables_conserves sites t).bind fun _ => (tablesList_conserves sites ts).bind fun _ =>
      conserves_pure fun r => by simp [Visit.sources]

theorem tables_conserves (sites : Sites) :
    (t : Sql.Tables) → Conserves [] (tables sites t) Visit.source
  | ⟨first, joins⟩ => (factor_conserves sites first).bind fun left =>
      joined_conserves sites joins left

theorem joined_conserves (sites : Sites) :
    (js : List Sql.Join) → (left : FromItem) →
      Conserves (Visit.source left) (joined sites js left) Visit.source
  | [], left => conserves_pure fun _ => rfl
  | ⟨_, kind, f, condition, _⟩ :: js, left => by
    rw [joined]
    refine (factor_conserves sites f).bind fun right => (expr?_conserves sites condition).bind fun c => ?_
    simpa [Visit.source] using joined_conserves sites js (.join kind left right c)

theorem factor_conserves (sites : Sites) :
    (f : Sql.Factor) → Conserves [] (factor sites f) Visit.source
  | .table name _ as _ => conserves_lift_bind (consistent_tableName name) fun _ _ =>
      conserves_pure fun _ => rfl
  | .derived _ q as => (query_conserves sites q).bind fun _ =>
      conserves_pure fun r => by simp [Visit.source]
  | .nested t _ => tables_conserves sites t
  | .other _ _ => conserves_pure fun _ => rfl

end

theorem conserves_mapM {f : α → Lower β} {visit : β → List Expr} (h : ∀ a, Conserves [] (f a) visit)
    (as : List α) : Conserves [] (as.mapM f) (fun bs => bs.flatMap visit) := by
  induction as with
  | nil => exact conserves_pure fun _ => rfl
  | cons a as ih =>
    rw [List.mapM_cons]
    exact (h a).bind fun _ => ih.bind fun _ => conserves_pure fun r => by simp

theorem targetTable_conserves (sites : Sites) (t : Sql.Tables) :
    Conserves [] (targetTable sites t) fun _ => [] := by
  refine (tables_conserves sites t).bind fun item => ?_
  split
  · exact conserves_pure fun r => rfl
  · exact conserves_throw _ _ rfl

theorem assignment_conserves (sites : Sites) (a : Sql.Assignment) :
    Conserves [] (assignment sites a) fun a => Visit.expr a.value := by
  unfold assignment
  split
  · exact (expr_conserves sites a.value).bind fun _ => conserves_pure fun r => rfl
  · exact conserves_throw _ _ rfl

theorem onConflict_conserves (sites : Sites) (c : Sql.OnConflict) :
    Conserves [] (onConflict sites c) fun p => Visit.assignments p.1 ++ Visit.option p.2 := by
  unfold onConflict
  split
  · exact (conserves_mapM (assignment_conserves sites) _).bind fun _ =>
      (expr?_conserves sites _).bind fun _ => conserves_pure fun r => rfl
  · exact conserves_pure fun _ => rfl

theorem insert_conserves (sites : Sites) (i : Sql.Insert) :
    Conserves [] (insert sites i) fun i => (Statement.insert i).exprs := by
  have hsource : Conserves [] (i.source.mapM (query sites)) fun q => (q.map Visit.query).getD [] := by
    cases i.source with
    | none => exact conserves_pure fun _ => rfl
    | some q => exact (query_conserves sites q).bind fun _ => conserves_pure fun r => by simp
  refine hsource.bind fun _ => (onConflict_conserves sites i.onConflict).bind fun p => ?_
  exact conserves_lift_bind (consistent_tableName i.table) fun _ _ =>
    (targetList_conserves sites i.returning).bind fun _ =>
      conserves_pure fun r => by simp [Statement.exprs]

theorem update_conserves (sites : Sites) (u : Sql.Update) :
    Conserves [] (update sites u) fun u => (Statement.update u).exprs :=
  (targetTable_conserves sites u.table).bind fun _ =>
    (conserves_mapM (assignment_conserves sites) u.assignments).bind fun _ =>
      (tablesList_conserves sites u.sources.toList).bind fun _ =>
        (expr?_conserves sites u.selection).bind fun _ =>
          (targetList_conserves sites u.returning).bind fun _ =>
            conserves_pure fun r => by simp [Statement.exprs, Visit.assignments]

theorem delete_conserves (sites : Sites) (d : Sql.Delete) :
    Conserves [] (delete sites d) fun d => (Statement.delete d).exprs := by
  unfold delete
  split
  · exact conserves_throw _ _ rfl
  · exact (tablesList_conserves sites d.sources).bind fun _ =>
      (targetTable_conserves sites _).bind fun _ => (expr?_conserves sites d.selection).bind fun _ =>
        (targetList_conserves sites d.returning).bind fun _ =>
          conserves_pure fun r => by simp [Statement.exprs]

theorem tableName_conserves (n : Sql.ObjectName) :
    Conserves [] (liftM (tableName n) : Lower QualifiedName) fun _ => [] := by
  have hname := consistent_tableName n
  cases hn : tableName n with
  | error e => exact conserves_throw _ _ (hname e hn)
  | ok name => exact conserves_pure fun _ => rfl

theorem conserves_mapM_nil {f : α → Lower β} (h : ∀ a, Conserves [] (f a) fun _ => []) (as : List α) :
    Conserves [] (as.mapM f) fun _ => [] := by
  have hmap := conserves_mapM h as
  simpa [List.flatMap_eq_nil_iff.mpr fun _ _ => rfl] using hmap

theorem definition_conserves (d : Definition Sql.ObjectName) :
    Conserves [] (d.mapM fun n => liftM (tableName n) : Lower (Definition QualifiedName)) fun _ => [] := by
  have hname {n : Sql.ObjectName} {k : QualifiedName → Definition QualifiedName} :
      Conserves [] (do return k (← tableName n) : Lower (Definition QualifiedName)) fun _ => [] :=
    (tableName_conserves n).bind fun _ => conserves_pure fun _ => rfl
  cases d with
  | createTable | alterTable | createEnum | createComposite | createFunction => exact hname
  | createSchema => exact conserves_pure fun _ => rfl
  | drop _ targets =>
    exact (conserves_mapM_nil tableName_conserves targets).bind fun _ => conserves_pure fun _ => rfl
  | dropFunction functions =>
    refine (conserves_mapM_nil (fun s => ?_) functions).bind fun _ => conserves_pure fun _ => rfl
    exact (tableName_conserves s.name).bind fun _ => conserves_pure fun _ => rfl
  | comment target =>
    have htarget : Conserves [] (target.mapM fun n => liftM (tableName n) :
        Lower (CommentTarget QualifiedName)) fun _ => [] := by
      cases target with
      | table | type => exact (tableName_conserves _).bind fun _ => conserves_pure fun _ => rfl
      | schema | column => exact conserves_pure fun _ => rfl
    exact htarget.bind fun _ => conserves_pure fun _ => rfl

theorem statement_conserves (sites : Sites) (s : Sql.Statement) :
    Conserves [] (statement sites s) Statement.exprs := by
  cases s with
  | query q => exact (query_conserves sites q).bind fun _ => conserves_pure fun _ => rfl
  | insert i => exact (insert_conserves sites i).bind fun _ => conserves_pure fun _ => rfl
  | update u => exact (update_conserves sites u).bind fun _ => conserves_pure fun _ => rfl
  | delete d => exact (delete_conserves sites d).bind fun _ => conserves_pure fun _ => rfl
  | truncate names =>
    refine (conserves_mapM_nil (fun n => ?_) names).bind fun _ => conserves_pure fun _ => rfl
    exact (tableName_conserves n).bind fun _ => conserves_pure fun _ => rfl
  | define d => exact (definition_conserves d).bind fun _ => conserves_pure fun _ => rfl
  | noOp _ => exact conserves_pure fun _ => rfl
  | other _ => exact conserves_pure fun _ => rfl

end Lower

theorem Statement.claims_of_read {text : Text} {sites : Sites} {s : Statement}
    (h : Statement.read text sites = .ok s) :
    ∃ rs left, Claims sites.stars rs left ∧ s.stars.Perm rs := by
  unfold Statement.read at h
  split at h
  · cases h
  split at h
  · cases h
  rename_i written _
  have h : (·.1) <$> (Lower.statement sites written).run sites.stars = .ok s := h
  rcases hrun : (Lower.statement sites written).run sites.stars with e | ⟨s', left⟩
  · rw [hrun] at h
    cases h
  · rw [hrun] at h
    cases h
    obtain ⟨rs, hclaims, hcount⟩ := (Lower.statement_conserves sites written).claims _ _ _ hrun
    refine ⟨rs, left, hclaims, List.perm_iff_count.mpr fun r => ?_⟩
    rw [← Nat.zero_add (rs.count r)]
    exact hcount r

/-- Whatever the sites are, they are no reason to refuse a statement. -/
theorem Statement.consistent_read (text : Text) (sites : Sites) : Consistent (Statement.read text sites) := by
  unfold Statement.read
  split
  · exact consistent_error rfl
  split
  · exact consistent_error rfl
  rename_i written _
  exact ((Lower.statement_conserves sites written).consistent sites.stars).map _

end TypedSql
