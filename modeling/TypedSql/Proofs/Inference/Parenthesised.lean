import Mathlib.Control.Monad.Basic
import TypedSql.Project
import TypedSql.Proofs.Inference.Occurrences
import TypedSql.Proofs.Scope

/-!
# Queries in parentheses

A query in parentheses is a body of its own, so its named queries are out of scope where its columns and
the tables of its left-most select are looked up. The analysis is that of the query without parentheses
where this makes no difference, in particular where the left-most select reads none of the query's own
named queries.
-/

namespace TypedSql

/-- A query as the body of another that adds nothing. -/
def Query.parenthesised (q : Query) : Query :=
  ⟨[], .query q, [], none, none⟩

theorem Query.leftmost?_parenthesised (q : Query) : q.parenthesised.leftmost? = q.leftmost? := by
  obtain ⟨_, _, _, _, _⟩ := q
  rfl

def FromItem.names : FromItem → List String
  | .range r => if r.relation.schema.isEmpty then [r.relation.name] else []
  | .join _ left right _ => left.names ++ right.names
  | .subquery .. => []
  | .other _ => []

def Query.names (q : Query) : List String :=
  match q.leftmost? with
  | some s => s.sources.flatMap FromItem.names
  | none => []

namespace Scope

structure AgreesOn (names : List String) (scope scope' : Scope) : Prop where
  catalog : scope'.catalog = scope.catalog
  ctes : ∀ name ∈ names, scope'.ctes.get? name = scope.ctes.get? name

variable {scope scope' : Scope}

theorem AgreesOn.mono {names names' : List String} (h : AgreesOn names scope scope')
    (hsub : names' ⊆ names) : AgreesOn names' scope scope' :=
  ⟨h.catalog, fun name hname => h.ctes name (hsub hname)⟩

theorem AgreesOn.table {r : RangeVar}
    (h : AgreesOn (FromItem.range r).names scope scope') : scope'.table r = scope.table r := by
  unfold Scope.table
  rw [h.catalog]
  by_cases hschema : r.relation.schema.isEmpty
  · have hname : r.relation.name ∈ (FromItem.range r).names := by simp [FromItem.names, hschema]
    rw [if_pos hschema, if_pos hschema, h.ctes _ hname]
  · rw [if_neg hschema, if_neg hschema]

theorem AgreesOn.itemTables : {item : FromItem} → AgreesOn item.names scope scope' →
    scope'.itemTables item = scope.itemTables item
  | .range r, h => by rw [Scope.itemTables, Scope.itemTables, h.table]
  | .join kind left right _, h => by
    have hleft := (h.mono (List.subset_append_left _ _)).itemTables
    have hright := (h.mono (List.subset_append_right _ _)).itemTables
    rw [Scope.itemTables, Scope.itemTables, hleft, hright]
  | .subquery .., _ => rfl
  | .other _, _ => rfl

theorem AgreesOn.tables {items : List FromItem}
    (h : AgreesOn (items.flatMap FromItem.names) scope scope') :
    scope'.tables items = scope.tables items := by
  have hitems : items.mapM scope'.itemTables = items.mapM scope.itemTables := by
    induction items with
    | nil => rfl
    | cons item items ih =>
      rw [List.flatMap_cons] at h
      rw [List.mapM_cons, List.mapM_cons, (h.mono (List.subset_append_left _ _)).itemTables,
        ih (h.mono (List.subset_append_right _ _))]
  rw [tables_eq, tables_eq, hitems]

theorem AgreesOn.queryTables {q : Query} (h : AgreesOn q.names scope scope') :
    scope'.queryTables q = scope.queryTables q := by
  unfold Scope.queryTables
  unfold Query.names at h
  split
  · rename_i s hs
    rw [hs] at h
    exact h.tables
  · rfl

theorem addCtes_agreesOn {names : List String} {cs : List Cte} (hcs : ∀ c ∈ cs, c.name ∉ names)
    (h : scope.addCtes cs = .ok scope') : AgreesOn names scope scope' := by
  induction cs generalizing scope with
  | nil =>
    cases h
    exact ⟨rfl, fun _ _ => rfl⟩
  | cons c cs ih =>
    obtain ⟨hc, hrest⟩ := List.forall_mem_cons.mp hcs
    obtain ⟨middle, hmiddle, h⟩ := bind_eq_ok.mp h
    obtain ⟨name, names, q⟩ := c
    obtain ⟨columns, _, hinsert⟩ := bind_eq_ok.mp hmiddle
    obtain rfl := pure_eq_ok_iff.mp hinsert
    have hagree := ih hrest h
    refine ⟨hagree.catalog, fun k hk => ?_⟩
    have hne : k ≠ name := fun heq => hc (heq ▸ hk)
    rw [hagree.ctes k hk]
    simp [insertCte, Dict.get?_insert, hne]

theorem columns_parenthesised (scope : Scope) (q : Query) :
    scope.columns q.parenthesised = scope.columns { q with ctes := [] } := by
  rw [columns_eq, columns_eq, q.leftmost?_parenthesised]
  rfl

theorem columns_parenthesised_eq {q : Query} (hq : ∀ c ∈ q.ctes, c.name ∉ q.names)
    (h : scope.addCtes q.ctes = .ok scope') : scope.columns q.parenthesised = scope.columns q := by
  have hagree := addCtes_agreesOn hq h
  rw [columns_parenthesised, columns_eq, columns_eq, h]
  change (match q.leftmost? with | some s => _ | none => _) =
    (match q.leftmost? with | some s => _ | none => _)
  unfold Query.names at hagree
  split
  · rename_i s hs
    rw [hs] at hagree
    rw [hagree.catalog, hagree.tables]
  · rfl

end Scope

namespace Find

theorem query_parenthesised (targets : Option (List TypedColumn)) (q : Query) (s : Finding) :
    (query targets q.parenthesised).run s = (do
      let (u, s') ← (query targets q).run s
      let _ ← s.scope.queryTables q
      pure (u, s')) := by
  have hleft : (Body.query q).leftmost? = q.leftmost? := q.leftmost?_parenthesised
  rw [Query.parenthesised, query, hleft]
  rcases hquery : (query targets q).run s with e | ⟨_, t⟩
  · simp [keepScope, ctes, body, hquery]
  · have hscope := (query_records targets q s _ t hquery).1
    rw [Scope.queryTables]
    cases q.leftmost? with
    | none =>
      simp [keepScope, ctes, body, exprs, bound, withLevel, hquery, ← hscope]
    | some sel =>
      cases htables : t.scope.tables sel.sources <;>
        simp [keepScope, ctes, body, exprs, bound, withLevel, tables, hquery, ← hscope, htables]

/-- Where the walk through a query succeeds, the tables of its left-most select are there, with its named
queries in scope. -/
theorem queryTables_of_query {targets : Option (List TypedColumn)} {q : Query} {s s' : Finding}
    {u : Unit} (h : (query targets q).run s = .ok (u, s')) :
    ∃ scope level, s.scope.addCtes q.ctes = .ok scope ∧ scope.queryTables q = .ok level := by
  obtain ⟨named, main, orderBy, limit, offset⟩ := q
  obtain ⟨t, hwalk, -⟩ := keepScope_eq_ok.mp h
  obtain ⟨_, t', hctes, hmain⟩ := run_bind_eq_ok.mp hwalk
  obtain ⟨_, t'', hbody, hlevel⟩ := run_bind_eq_ok.mp hmain
  obtain ⟨hscope, -⟩ := ctes_records named s _ t' hctes
  obtain ⟨hscope', -⟩ := body_records targets main t' _ t'' hbody
  dsimp only at hlevel
  refine ⟨t'.scope, ?_⟩
  unfold Scope.queryTables Query.leftmost?
  split at hlevel
  · rename_i sel hsel
    obtain ⟨level, htables, -⟩ := run_tables_bind_eq_ok.mp hlevel
    rw [hscope'] at htables
    exact ⟨level, hscope, by simpa [hsel] using htables⟩
  · rename_i hnone
    exact ⟨[], hscope, by simp [hnone]⟩

end Find

namespace Scope

theorem queryTables_error {scope : Scope} {q : Query} {e : Error} {n : Nat}
    (h : scope.queryTables q = .error e) : e ≠ .parameterTypeUnknown n := by
  unfold queryTables at h
  split at h
  · rintro rfl
    obtain ⟨⟨⟩⟩ | ⟨_, ⟨⟩⟩ := tables_error h
  · cases h

theorem params_parenthesised (scope : Scope) (q : Query) (set : ParamSet) :
    scope.params (.select q.parenthesised) set = (do
      let (_, end_) ← (Find.query none q).run { scope }
      let _ ← scope.queryTables q
      return (← TypedParam.ofOccurrences end_.found).map (·.nameIn set)) := by
  unfold params
  change ((Find.query none q.parenthesised).run { scope } >>= _) = _
  rw [Find.query_parenthesised]
  rcases (Find.query none q).run { scope } with e | ⟨_, t⟩
  · rfl
  · cases scope.queryTables q <;> rfl

theorem params_eq (scope : Scope) (q : Query) (set : ParamSet) :
    scope.params (.select q) set = (do
      let (_, end_) ← (Find.query none q).run { scope }
      return (← TypedParam.ofOccurrences end_.found).map (·.nameIn set)) :=
  rfl

/-- The parameters are the same unless the walk through the query succeeds and the tables of its
left-most select are missing where its named queries are not in scope. -/
theorem params_parenthesised_eq_iff (scope : Scope) (q : Query) (set : ParamSet) :
    scope.params (.select q.parenthesised) set = scope.params (.select q) set ↔
      ∀ end_, (Find.query none q).run { scope } = .ok ((), end_) → (scope.queryTables q).isOk := by
  rw [params_parenthesised, params_eq]
  rcases (Find.query none q).run { scope } with e | ⟨_, end_⟩
  · constructor
    · rintro _ _ ⟨⟩
    · exact fun _ => rfl
  · cases htables : scope.queryTables q with
    | ok level => exact ⟨fun _ _ _ => rfl, fun _ => rfl⟩
    | error e =>
      constructor
      · intro heq
        have heq : .error e = TypedParam.ofOccurrences end_.found >>= fun ps =>
          pure (ps.map (·.nameIn set)) := heq
        obtain hfound | ⟨_, _, ⟨⟩⟩ := bind_eq_error.mp heq.symm
        obtain ⟨n, rfl⟩ := TypedParam.ofOccurrences_error hfound
        exact absurd rfl (queryTables_error htables)
      · intro hok
        cases hok end_ rfl

theorem params_parenthesised_eq {scope : Scope} {q : Query} (hq : ∀ c ∈ q.ctes, c.name ∉ q.names)
    (set : ParamSet) :
    scope.params (.select q.parenthesised) set = scope.params (.select q) set := by
  refine (params_parenthesised_eq_iff scope q set).mpr fun end_ hrun => ?_
  obtain ⟨inner, level, hctes, htables⟩ := Find.queryTables_of_query hrun
  rw [(addCtes_agreesOn hq hctes).queryTables] at htables
  rw [htables]
  rfl

/-- The analysis of a query in parentheses. Its columns are those of the query without its named
queries. Its parameters are those of the query, unless tables of its left-most select are named queries
of its own. So the parentheses make no difference to a query whose left-most select reads none of the
query's own named queries. -/
theorem parenthesised_agrees_iff (scope : Scope) (q : Query) (set : ParamSet) :
    (scope.statementColumns (.select q.parenthesised) = scope.statementColumns (.select q) ↔
      scope.columns { q with ctes := [] } = scope.columns q) ∧
    (scope.params (.select q.parenthesised) set = scope.params (.select q) set ↔
      ∀ end_, (Find.query none q).run { scope } = .ok ((), end_) → (scope.queryTables q).isOk) ∧
    ((∀ c ∈ q.ctes, c.name ∉ q.names) →
      scope.params (.select q.parenthesised) set = scope.params (.select q) set ∧
      ((scope.addCtes q.ctes).isOk →
        scope.statementColumns (.select q.parenthesised) = scope.statementColumns (.select q))) := by
  refine ⟨?_, params_parenthesised_eq_iff scope q set, fun hq => ⟨params_parenthesised_eq hq set, ?_⟩⟩
  · rw [statementColumns, statementColumns, columns_parenthesised]
  · intro hok
    cases hctes : scope.addCtes q.ctes with
    | error e =>
      rw [hctes] at hok
      cases hok
    | ok inner => exact columns_parenthesised_eq hq hctes

def readsInCondition : Query :=
  ⟨[⟨"x", [], ⟨[], .select ⟨false, [⟨.cast (.param 1 none) (.ofName "int"), some "a"⟩], [], none, [], none⟩,
      [], none, none⟩⟩],
    .select ⟨false, [⟨.cast (.param 2 none) (.ofName "text"), some "b"⟩], [],
      some (.exist ⟨[], .select ⟨false, [], [.range ⟨.ofName "x", none⟩], none, [], none⟩, [], none, none⟩
        false), [], none⟩, [], none, none⟩

theorem parenthesised_agrees_readsInCondition :
    (∀ c ∈ readsInCondition.ctes, c.name ∉ readsInCondition.names) ∧
      Scope.params { catalog := .initial {} } (.select readsInCondition.parenthesised) {} = .ok
        [⟨1, .ofType "" (.ofName "int")⟩, ⟨2, .ofType "" (.ofName "text")⟩] ∧
      Scope.statementColumns { catalog := .initial {} } (.select readsInCondition.parenthesised) =
        .ok [.ofType "b" (.ofName "text")] := by
  have hnames : ∀ c ∈ readsInCondition.ctes, c.name ∉ readsInCondition.names := fun _ _ h => by cases h
  obtain ⟨hparams, hcolumns⟩ :=
    (parenthesised_agrees_iff { catalog := .initial {} } readsInCondition {}).2.2 hnames
  refine ⟨hnames, hparams.trans ?_, (hcolumns rfl).trans rfl⟩
  rw [params, TypedParam.ofOccurrences_eq_insertionSort]
  rfl

def readsInFront : Query :=
  ⟨[⟨"x", [], ⟨[], .select ⟨false, [⟨.cast (.literal (.number "1")) (.ofName "int"), some "a"⟩], [], none,
      [], none⟩, [], none, none⟩⟩],
    .select ⟨false, [⟨.column ["a"], none⟩], [.range ⟨.ofName "x", none⟩], none, [], none⟩, [], none, none⟩

/-- In parentheses the named query is not found, neither in the tree nor in a text. -/
theorem parenthesised_fails_readsInFront :
    Scope.statementColumns { catalog := .initial {} } (.select readsInFront) =
        .ok [{ name := "a", dataType := "int", notNull := true, table := some (.ofName "x") }] ∧
      Scope.statementColumns { catalog := .initial {} } (.select readsInFront.parenthesised) =
        .error (.relationNotFound "x") ∧
      Scope.params { catalog := .initial {} } (.select readsInFront) {} = .ok [] ∧
      Scope.params { catalog := .initial {} } (.select readsInFront.parenthesised) {} =
        .error (.relationNotFound "x") ∧
      ((Project.initial {}).analyse "WITH x AS (SELECT 1::int AS a) SELECT a FROM x".toList).isOk ∧
      (Project.initial {}).analyse "(WITH x AS (SELECT 1::int AS a) SELECT a FROM x)".toList =
        .error { location := 0, line := 1, error := .relationNotFound "x" } := by
  decide +kernel

end Scope

end TypedSql
