import Mathlib.Data.List.Forall2
import TypedSql.Proofs.Expansion
import TypedSql.Proofs.Lower
import TypedSql.Proofs.Scope
import TypedSql.Statement.Numbering

/-!
# Which wildcards are expanded

An expansion makes one edit for each wildcard of the select lists that it goes through, in their order. It
needs the place of every one of them, and that is the only inconsistency that it may find.
-/

namespace TypedSql

namespace Expanded

mutual

def query (embedsOnly : Bool) : Query → List StarRef
  | ⟨named, main, _, _, _⟩ => ctes embedsOnly named ++ body embedsOnly main

def ctes (embedsOnly : Bool) : List Cte → List StarRef
  | [] => []
  | c :: cs => cte embedsOnly c ++ ctes embedsOnly cs

def cte (embedsOnly : Bool) : Cte → List StarRef
  | ⟨_, _, q⟩ => query embedsOnly q

def body (embedsOnly : Bool) : Body → List StarRef
  | .select s => Expansion.stars embedsOnly s.targets
  | .setOp _ left right => body embedsOnly left ++ body embedsOnly right
  | .values _ => []
  | .query q => query embedsOnly q

end

def statement (embedsOnly : Bool) : Statement → List StarRef
  | .select q => query embedsOnly q
  | .insert i => (i.source.map (query embedsOnly)).getD [] ++ Expansion.stars embedsOnly i.returning
  | .update u => Expansion.stars embedsOnly u.returning
  | .delete d => Expansion.stars embedsOnly d.returning
  | _ => []

end Expanded

def Statement.expanded (settings : Settings) (s : Statement) : List StarRef :=
  Expanded.statement (!settings.expandStars) s

namespace Expansion

def Edits (star : StarRef) (e : Edit) : Prop :=
  ∃ tables, starEdit tables star = .ok e

theorem targets_edits {embedsOnly : Bool} {tables : List SourceTable} {ts : List Target}
    {edits : List Edit} (h : targets embedsOnly tables ts = .ok edits) :
    List.Forall₂ Edits (stars embedsOnly ts) edits :=
  (mapM_eq_ok.mp h).imp fun _ _ h => ⟨tables, h⟩

mutual

theorem query_edits {embedsOnly : Bool} {scope : Scope} {edits : List Edit} : (q : Query) →
    query embedsOnly scope q = .ok edits → List.Forall₂ Edits (Expanded.query embedsOnly q) edits
  | ⟨named, main, orderBy, limit, offset⟩, h => by
    obtain ⟨⟨inner, first⟩, hctes, h⟩ := bind_eq_ok.mp h
    obtain ⟨second, hbody, h⟩ := bind_eq_ok.mp h
    obtain rfl := pure_eq_ok_iff.mp h
    exact List.rel_append (ctes_edits named hctes) (body_edits main hbody)

theorem ctes_edits {embedsOnly : Bool} {scope inner : Scope} {edits : List Edit} : (cs : List Cte) →
    ctes embedsOnly scope cs = .ok (inner, edits) →
    List.Forall₂ Edits (Expanded.ctes embedsOnly cs) edits
  | [], h => by
    cases h
    exact .nil
  | c :: cs, h => by
    obtain ⟨⟨middle, first⟩, hcte, h⟩ := bind_eq_ok.mp h
    obtain ⟨⟨inner, second⟩, hctes, h⟩ := bind_eq_ok.mp h
    cases h
    exact List.rel_append (cte_edits c hcte) (ctes_edits cs hctes)

theorem cte_edits {embedsOnly : Bool} {scope inner : Scope} {edits : List Edit} : (c : Cte) →
    cte embedsOnly scope c = .ok (inner, edits) →
    List.Forall₂ Edits (Expanded.cte embedsOnly c) edits
  | ⟨name, names, q⟩, h => by
    obtain ⟨edits, hquery, h⟩ := bind_eq_ok.mp h
    obtain ⟨columns, -, h⟩ := bind_eq_ok.mp h
    cases h
    exact query_edits q hquery

theorem body_edits {embedsOnly : Bool} {scope : Scope} {edits : List Edit} : (b : Body) →
    body embedsOnly scope b = .ok edits → List.Forall₂ Edits (Expanded.body embedsOnly b) edits
  | .select s, h => by
    obtain ⟨tables, -, h⟩ := bind_eq_ok.mp h
    exact targets_edits h
  | .setOp _ left right, h => by
    obtain ⟨first, hleft, h⟩ := bind_eq_ok.mp h
    obtain ⟨second, hright, h⟩ := bind_eq_ok.mp h
    obtain rfl := pure_eq_ok_iff.mp h
    exact List.rel_append (body_edits left hleft) (body_edits right hright)
  | .values _, h => by
    cases h
    exact .nil
  | .query q, h => query_edits q h

end

theorem statement_edits {embedsOnly : Bool} {scope : Scope} {s : Statement} {edits : List Edit}
    (h : statement embedsOnly scope s = .ok edits) :
    List.Forall₂ Edits (Expanded.statement embedsOnly s) edits := by
  cases s with
  | select q => exact query_edits q h
  | insert i =>
    obtain ⟨first, hsource, h⟩ := bind_eq_ok.mp h
    obtain ⟨table, -, h⟩ := bind_eq_ok.mp h
    obtain ⟨second, htargets, h⟩ := bind_eq_ok.mp h
    obtain rfl := pure_eq_ok_iff.mp h
    refine List.rel_append ?_ (targets_edits htargets)
    cases hi : i.source with
    | none =>
      rw [hi] at hsource
      cases hsource
      exact .nil
    | some q =>
      rw [hi] at hsource
      exact query_edits q hsource
  | update u =>
    obtain ⟨tables, -, h⟩ := bind_eq_ok.mp h
    exact targets_edits h
  | delete d =>
    obtain ⟨tables, -, h⟩ := bind_eq_ok.mp h
    exact targets_edits h
  | truncate | define | noOp | other =>
    cases h
    exact .nil

theorem location_of_edits {star : StarRef} {e : Edit} (h : Edits star e) :
    star.location = some e.location ∧ star.text = e.old := by
  obtain ⟨tables, h⟩ := h
  obtain ⟨⟨s, hs, hplace⟩, -⟩ := starEdit_eq_ok h
  obtain rfl : s = star := by simpa using hs
  exact hplace

/-- The only inconsistency that a step may find is that one of some wildcards has no place. -/
def Misses {α : Type} (stars : List StarRef) (x : Except Error α) : Prop :=
  ∀ e, x = .error e → e.isInconsistency = true →
    ∃ star ∈ stars, star.location = none ∧ e = .internal (.starWithoutSite star.text)

section Rules

variable {α β : Type} {stars stars' : List StarRef} {x : Except Error α}

theorem misses_of_consistent (h : Consistent x) : Misses stars x := by
  intro e he hinconsistent
  rw [h e he] at hinconsistent
  cases hinconsistent

theorem misses_ok (a : α) : Misses stars (.ok a) :=
  misses_of_consistent (consistent_ok a)

theorem Misses.bind {f : α → Except Error β} (hx : Misses stars x) (hf : ∀ a, Misses stars' (f a)) :
    Misses (stars ++ stars') (x >>= f) := by
  intro e he hinconsistent
  rcases bind_eq_error.mp he with he | ⟨a, -, he⟩
  · obtain ⟨star, hstar, hnone⟩ := hx e he hinconsistent
    exact ⟨star, List.mem_append_left _ hstar, hnone⟩
  · obtain ⟨star, hstar, hnone⟩ := hf a e he hinconsistent
    exact ⟨star, List.mem_append_right _ hstar, hnone⟩

theorem Misses.bind_ok {f : α → Except Error β} (hx : Misses stars x) (hf : ∀ a, Misses [] (f a)) :
    Misses stars (x >>= f) := by
  have h := hx.bind hf
  rwa [List.append_nil] at h

theorem misses_bind {f : α → Except Error β} (hx : Avoids Error.isPositional x)
    (hf : ∀ a, Misses stars (f a)) : Misses stars (x >>= f) :=
  (misses_of_consistent hx.consistent : Misses [] x).bind hf

end Rules

theorem misses_targets {embedsOnly : Bool} {tables : List SourceTable} {ts : List Target} :
    Misses (stars embedsOnly ts) (targets embedsOnly tables ts) := by
  unfold targets
  induction stars embedsOnly ts with
  | nil => exact misses_ok []
  | cons star rest ih =>
    have hstar : Misses [star] (starEdit tables star) := by
      unfold starEdit
      split
      · rename_i hnone
        rintro _ ⟨⟩ -
        exact ⟨star, List.mem_singleton_self star, hnone, rfl⟩
      · refine misses_bind ?_ fun _ => misses_ok _
        refine (avoids_starTables tables star.qualifier).bind fun found _ => ?_
        split <;> exact avoids_ok _
    rw [List.mapM_cons]
    exact hstar.bind fun _ => ih.bind_ok fun _ => misses_ok _

mutual

theorem misses_query {embedsOnly : Bool} : (q : Query) → (scope : Scope) →
    Misses (Expanded.query embedsOnly q) (query embedsOnly scope q)
  | ⟨named, main, _, _, _⟩, scope =>
    (misses_ctes named scope).bind fun (inner, _) => (misses_body main inner).bind_ok fun _ => misses_ok _

theorem misses_ctes {embedsOnly : Bool} : (cs : List Cte) → (scope : Scope) →
    Misses (Expanded.ctes embedsOnly cs) (ctes embedsOnly scope cs)
  | [], _ => misses_ok _
  | c :: cs, scope =>
    (misses_cte c scope).bind fun (inner, _) => (misses_ctes cs inner).bind_ok fun _ => misses_ok _

theorem misses_cte {embedsOnly : Bool} : (c : Cte) → (scope : Scope) →
    Misses (Expanded.cte embedsOnly c) (cte embedsOnly scope c)
  | ⟨_, _, q⟩, scope => (misses_query q scope).bind_ok fun _ =>
    misses_bind (Scope.avoids_columns scope q) fun _ => misses_ok _

theorem misses_body {embedsOnly : Bool} : (b : Body) → (scope : Scope) →
    Misses (Expanded.body embedsOnly b) (body embedsOnly scope b)
  | .select s, _ => misses_bind (Scope.avoids_tables s.sources) fun _ => misses_targets
  | .setOp _ left right, scope =>
    (misses_body left scope).bind fun _ => (misses_body right scope).bind_ok fun _ => misses_ok _
  | .values _, _ => misses_ok _
  | .query q, scope => misses_query q scope

end

theorem misses_statement {embedsOnly : Bool} (scope : Scope) (s : Statement) :
    Misses (Expanded.statement embedsOnly s) (statement embedsOnly scope s) := by
  cases s with
  | select q => exact misses_query q scope
  | insert i =>
    refine Misses.bind ?_ fun _ => misses_bind (Scope.avoids_table i.relation) fun _ =>
      misses_targets.bind_ok fun _ => misses_ok _
    cases i.source with
    | none => exact misses_ok _
    | some q => exact misses_query q scope
  | update u => exact misses_bind (Scope.avoids_targetTables _ _) fun _ => misses_targets
  | delete d => exact misses_bind (Scope.avoids_targetTables _ _) fun _ => misses_targets
  | truncate | define | noOp | other => exact misses_ok _

end Expansion

namespace Expanded

theorem stars_cons (embedsOnly : Bool) (value : Expr) (name : Option String) (ts : List Target) :
    Expansion.stars embedsOnly (⟨value, name⟩ :: ts) =
      (value.star?.filter fun s => !embedsOnly || s.embed).toList ++ Expansion.stars embedsOnly ts := by
  unfold Expansion.stars
  rw [List.filterMap_cons]
  cases value with
  | star s => cases embedsOnly <;> cases hs : s.embed <;> simp [Expr.star?, Option.filter, hs]
  | _ => rfl

theorem stars_sublist (embedsOnly : Bool) (ts : List Target) :
    (Expansion.stars embedsOnly ts).Sublist ((Visit.targets ts).filterMap Expr.star?) := by
  induction ts with
  | nil => exact .slnil
  | cons t ts ih =>
    obtain ⟨value, name⟩ := t
    rw [stars_cons, Visit.targets, List.filterMap_append]
    refine List.Sublist.append ?_ ih
    cases hstar : value.star? with
    | none => exact List.nil_sublist _
    | some s =>
      have hhead : ((some s).filter fun s => !embedsOnly || s.embed).toList.Sublist [s] := by
        rw [Option.filter]
        split
        · exact .refl _
        · exact List.nil_sublist _
      refine hhead.trans (List.singleton_sublist.mpr (List.mem_filterMap.mpr ⟨value, ?_, hstar⟩))
      exact Expansion.mem_visit_expr value

mutual

theorem query_sublist {embedsOnly : Bool} :
    (q : Query) → (query embedsOnly q).Sublist ((Visit.query q).filterMap Expr.star?)
  | ⟨named, main, orderBy, limit, offset⟩ => by
    simp only [Visit.query, List.filterMap_append]
    exact (((ctes_sublist named).append (body_sublist main)).trans (List.sublist_append_left _ _)).trans
      ((List.sublist_append_left _ _).trans (List.sublist_append_left _ _))

theorem ctes_sublist {embedsOnly : Bool} :
    (cs : List Cte) → (ctes embedsOnly cs).Sublist ((Visit.ctes cs).filterMap Expr.star?)
  | [] => .slnil
  | ⟨_, _, q⟩ :: cs => by
    rw [Visit.ctes, List.filterMap_append]
    exact (query_sublist q).append (ctes_sublist cs)

theorem body_sublist {embedsOnly : Bool} :
    (b : Body) → (body embedsOnly b).Sublist ((Visit.body b).filterMap Expr.star?)
  | .select ⟨_, items, _, _, _, _⟩ => by
    simp only [Visit.body, Visit.select, List.filterMap_append, List.append_assoc]
    exact (stars_sublist embedsOnly items).trans (List.sublist_append_left _ _)
  | .setOp _ left right => by
    rw [Visit.body, List.filterMap_append]
    exact (body_sublist left).append (body_sublist right)
  | .values _ => List.nil_sublist _
  | .query q => query_sublist q

end

theorem statement_sublist (embedsOnly : Bool) (s : Statement) :
    (statement embedsOnly s).Sublist s.stars := by
  unfold Statement.stars
  cases s with
  | select q => exact query_sublist q
  | insert i =>
    simp only [Statement.exprs, List.filterMap_append]
    refine List.Sublist.append ?_ (stars_sublist embedsOnly i.returning)
    refine List.Sublist.trans ?_ ((List.sublist_append_left _ _).trans (List.sublist_append_left _ _))
    cases i.source with
    | none => exact .slnil
    | some q => exact query_sublist q
  | update u =>
    simp only [Statement.exprs, List.filterMap_append]
    exact (stars_sublist embedsOnly u.returning).trans (List.sublist_append_right _ _)
  | delete d =>
    simp only [Statement.exprs, List.filterMap_append]
    exact (stars_sublist embedsOnly d.returning).trans (List.sublist_append_right _ _)
  | truncate | define | noOp | other => exact .slnil

theorem star?_renumber (number : String → Option Nat) (e : Expr) :
    (Renumber.expr number e).star? = e.star? := by
  cases e with
  | named name style =>
    rw [Renumber.expr]
    split <;> rfl
  | _ => rfl

theorem stars_renumber (number : String → Option Nat) (embedsOnly : Bool) (ts : List Target) :
    Expansion.stars embedsOnly (Renumber.targets number ts) = Expansion.stars embedsOnly ts := by
  induction ts with
  | nil => rfl
  | cons t ts ih =>
    obtain ⟨value, name⟩ := t
    rw [Renumber.targets, Renumber.target, stars_cons, stars_cons, star?_renumber, ih]

mutual

theorem query_renumber (number : String → Option Nat) {embedsOnly : Bool} :
    (q : Query) → query embedsOnly (Renumber.query number q) = query embedsOnly q
  | ⟨named, main, _, _, _⟩ => by
    rw [Renumber.query, query, query, ctes_renumber number named, body_renumber number main]

theorem ctes_renumber (number : String → Option Nat) {embedsOnly : Bool} :
    (cs : List Cte) → ctes embedsOnly (Renumber.ctes number cs) = ctes embedsOnly cs
  | [] => rfl
  | ⟨_, _, q⟩ :: cs => by
    rw [Renumber.ctes, ctes, ctes, ctes_renumber number cs, Renumber.cte, cte, cte, query_renumber number q]

theorem body_renumber (number : String → Option Nat) {embedsOnly : Bool} :
    (b : Body) → body embedsOnly (Renumber.body number b) = body embedsOnly b
  | .select ⟨_, items, _, _, _, _⟩ => stars_renumber number embedsOnly items
  | .setOp _ left right => by
    rw [Renumber.body, body, body, body_renumber number left, body_renumber number right]
  | .values _ => rfl
  | .query q => query_renumber number q

end

theorem statement_renumber (number : String → Option Nat) (embedsOnly : Bool) (s : Statement) :
    statement embedsOnly (Renumber.statement number s) = statement embedsOnly s := by
  cases s with
  | select q => exact query_renumber number q
  | insert i =>
    have hsource : ((i.source.map (Renumber.query number)).map (query embedsOnly)).getD [] =
        (i.source.map (query embedsOnly)).getD [] := by
      cases i.source with
      | none => rfl
      | some q => exact query_renumber number q
    rw [Renumber.statement, statement, statement, hsource, stars_renumber]
  | update u => exact stars_renumber number embedsOnly u.returning
  | delete d => exact stars_renumber number embedsOnly d.returning
  | truncate | define | noOp | other => rfl

end Expanded

end TypedSql
