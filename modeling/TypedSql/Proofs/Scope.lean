import TypedSql.Output
import TypedSql.Proofs.Dict
import TypedSql.Proofs.Reference
import TypedSql.Proofs.Scope.Joins

/-!
# Looking tables up

What a scope answers for the tables of a query depends on the catalog only by the tables that the query
refers to. Where it answers, these tables are there.
-/

namespace TypedSql

/-- Two catalogs that answer calls alike, and that have the same tables for some references. -/
structure Catalog.AgreesOn (refs : List Reference) (c c' : Catalog) : Prop where
  resolve : ∀ call, c'.resolve call = c.resolve call
  table : ∀ r ∈ refs, r.isCte = false → c'.table r.relation = c.table r.relation

theorem Catalog.AgreesOn.mono {refs refs' : List Reference} {c c' : Catalog}
    (h : c.AgreesOn refs c') (hsub : refs' ⊆ refs) : c.AgreesOn refs' c' :=
  ⟨h.resolve, fun r hr => h.table r (hsub hr)⟩

theorem isPositional_of_isNotFound {e : Error} (h : e.isNotFound = true) : e.isPositional = false := by
  cases e <;> first | rfl | cases h

theorem avoids_findColumn (tables : List SourceTable) (path : List String) :
    Avoids Error.isPositional (findColumn tables path) := by
  unfold findColumn
  split
  · exact avoids_error rfl
  · split
    · exact avoids_ok _
    · exact avoids_ok _
    · exact avoids_error rfl

theorem avoids_resolveColumn (tables : List SourceTable) (path : List String) :
    Avoids Error.isPositional (resolveColumn tables path) := by
  refine (avoids_findColumn tables path).bind fun found _ => ?_
  cases found with
  | none => exact avoids_error rfl
  | some found => exact avoids_ok found

theorem avoids_starTables (tables : List SourceTable) (qualifier : List String) :
    Avoids Error.isPositional (starTables tables qualifier) := by
  unfold starTables
  split
  · exact avoids_ok tables
  · dsimp only
    split
    · exact avoids_error rfl
    · exact avoids_ok _

namespace Output

theorem avoids_callColumn (c : Catalog) (tables : List SourceTable) (call : Call) (args : List Expr) :
    Avoids Error.isPositional (callColumn c tables call args) := by
  unfold callColumn coalesceColumn
  split
  · split
    · exact (avoids_resolveColumn tables _).bind fun _ _ => avoids_ok _
    · exact avoids_ok _
  · split <;> exact avoids_ok _

theorem avoids_exprColumns (c : Catalog) (tables : List SourceTable) (e : Expr) :
    Avoids Error.isPositional (exprColumns c tables e) := by
  unfold exprColumns
  split
  · exact (avoids_starTables tables _).bind fun _ _ => avoids_ok _
  · exact (avoids_resolveColumn tables _).bind fun _ _ => avoids_ok _
  · exact (avoids_callColumn c tables _ _).bind fun _ _ => avoids_ok _
  all_goals exact avoids_ok _

theorem avoids_columns (c : Catalog) (tables : List SourceTable) (targets : List Target) :
    Avoids Error.isPositional (columns c tables targets) := by
  refine Avoids.bind (avoids_mapM fun t _ => ?_) fun _ _ => avoids_ok _
  exact (avoids_exprColumns c tables t.value).bind fun _ _ => avoids_ok _

theorem columns_congr {c c' : Catalog} (h : ∀ call, c'.resolve call = c.resolve call)
    (tables : List SourceTable) (targets : List Target) :
    columns c' tables targets = columns c tables targets := by
  have hexpr : ∀ e, exprColumns c' tables e = exprColumns c tables e := by
    intro e
    cases e with
    | call call args => simp only [exprColumns, callColumn, h]
    | choose operand conditions results otherwise =>
      cases otherwise with
      | none => rfl
      | some e => cases e <;> rfl
    | _ => rfl
  have htarget : ∀ t ∈ targets, targetColumns c' tables t = targetColumns c tables t := by
    intro t _
    rw [targetColumns, targetColumns, hexpr]
  rw [columns, columns, mapM_congr htarget]

end Output

namespace Scope

structure Within (c : Catalog) (ctes : List String) (scope : Scope) : Prop where
  catalog : scope.catalog = c
  ctes : ∀ name, (scope.ctes.get? name).isSome ↔ name ∈ ctes

def rebase (c : Catalog) (scope : Scope) : Scope :=
  { scope with catalog := c }

variable {c c' : Catalog} {ctes : List String} {scope : Scope}

theorem within_nil (c : Catalog) : Within c [] { catalog := c } :=
  ⟨rfl, by simp⟩

theorem within_keys (scope : Scope) : scope.Within scope.catalog scope.ctes.keys :=
  ⟨rfl, fun _ => Dict.mem_keys_iff.symm⟩

theorem Within.isCte (h : scope.Within c ctes) (r : Reference) (hr : r.ctes = ctes) :
    r.isCte = true ↔
      r.relation.schema.isEmpty = true ∧ (scope.ctes.get? r.relation.name).isSome = true := by
  rw [Reference.isCte, hr, Bool.and_eq_true, List.contains_iff_mem, h.ctes]

theorem Within.insertCte (h : scope.Within c ctes) (name : String) (names : List String)
    (columns : List TypedColumn) : (scope.insertCte name names columns).Within c (ctes ++ [name]) := by
  refine ⟨h.catalog, fun k => ?_⟩
  rw [Scope.insertCte, Dict.get?_insert, List.mem_append, List.mem_singleton, ← h.ctes]
  split <;> simp_all

theorem table_resolves {r : RangeVar} {t : SourceTable} (hscope : scope.Within c ctes)
    (h : scope.table r = .ok t) (again : Bool) :
    Reference.Resolves c { relation := r.relation, ctes, again } := by
  unfold table at h
  by_cases hcte : Reference.isCte { relation := r.relation, ctes, again } = true
  · exact .inl hcte
  · right
    rw [hscope.isCte _ rfl] at hcte
    have hnone : (if r.relation.schema.isEmpty then scope.ctes.get? r.relation.name else none) = none := by
      split
      · simpa [*] using hcte
      · rfl
    rw [hnone] at h
    obtain ⟨t, ht, -⟩ := bind_eq_ok.mp h
    rw [hscope.catalog] at ht
    exact ⟨t, ht⟩

theorem table_rebase {r : RangeVar} (again : Bool) (hscope : scope.Within c ctes)
    (h : c.AgreesOn [{ relation := r.relation, ctes, again }] c') :
    (scope.rebase c').table r = scope.table r := by
  unfold table rebase
  dsimp only
  rw [hscope.catalog]
  generalize hcte? : (if r.relation.schema.isEmpty then scope.ctes.get? r.relation.name else none) = cte?
  cases cte? with
  | some t => rfl
  | none =>
    have hcte : Reference.isCte { relation := r.relation, ctes, again } = false := by
      rw [Bool.eq_false_iff, ne_eq, hscope.isCte _ rfl]
      rintro ⟨hempty, hsome⟩
      rw [if_pos hempty] at hcte?
      rw [hcte?] at hsome
      cases hsome
    rw [h.table _ (by simp) hcte]

theorem table_error {r : RangeVar} {e : Error} (h : scope.table r = .error e) : e.isNotFound = true := by
  unfold table at h
  generalize (if r.relation.schema.isEmpty then scope.ctes.get? r.relation.name else none) = cte? at h
  cases cte? with
  | some t => cases h
  | none =>
    obtain h | ⟨_, _, ⟨⟩⟩ := bind_eq_error.mp h
    obtain h | ⟨s, _, h⟩ := bind_eq_error.mp h
    · unfold Catalog.schema at h
      split at h <;> cases h
      rfl
    · unfold Schema.table at h
      split at h <;> cases h
      rfl

theorem itemTables_resolves (hscope : scope.Within c ctes) (again : Bool) :
    {item : FromItem} → {ts : List SourceTable} → scope.itemTables item = .ok ts →
    ∀ relation ∈ item.relations, Reference.Resolves c { relation, ctes, again }
  | .range r, _, h => by
    obtain ⟨t, ht, -⟩ := bind_eq_ok.mp h
    intro relation hrelation
    rw [List.mem_singleton.mp hrelation]
    exact table_resolves hscope ht again
  | .join _ left right _, _, h => by
    obtain ⟨ls, hleft, h⟩ := bind_eq_ok.mp h
    obtain ⟨rs, hright, -⟩ := bind_eq_ok.mp h
    intro relation hrelation
    rcases List.mem_append.mp hrelation with hrelation | hrelation
    · exact itemTables_resolves hscope again hleft relation hrelation
    · exact itemTables_resolves hscope again hright relation hrelation
  | .subquery .., _, h => by cases h
  | .other _, _, h => by cases h

theorem itemTables_rebase (again : Bool) (hscope : scope.Within c ctes) : {item : FromItem} →
    c.AgreesOn (item.relations.map ({ relation := ·, ctes, again })) c' →
    (scope.rebase c').itemTables item = scope.itemTables item
  | .range r, h => by
    rw [itemTables, itemTables, table_rebase again hscope h]
  | .join kind left right _, h => by
    rw [FromItem.relations, List.map_append] at h
    rw [itemTables, itemTables, itemTables_rebase again hscope (h.mono (List.subset_append_left _ _)),
      itemTables_rebase again hscope (h.mono (List.subset_append_right _ _))]
  | .subquery .., _ => rfl
  | .other _, _ => rfl

theorem itemTables_error : {item : FromItem} → {e : Error} → scope.itemTables item = .error e →
    e.isNotFound = true ∨ ∃ what, e = .unsupported what
  | .range r, _, h => by
    obtain h | ⟨_, _, ⟨⟩⟩ := bind_eq_error.mp h
    exact .inl (table_error h)
  | .join _ left right _, _, h => by
    obtain h | ⟨_, _, h⟩ := bind_eq_error.mp h
    · exact itemTables_error h
    · obtain h | ⟨_, _, ⟨⟩⟩ := bind_eq_error.mp h
      exact itemTables_error h
  | .subquery .., _, h => by
    cases h
    exact .inr ⟨_, rfl⟩
  | .other _, _, h => by
    cases h
    exact .inr ⟨_, rfl⟩

theorem tables_resolves {items : List FromItem} {ts : List SourceTable} (hscope : scope.Within c ctes)
    (h : scope.tables items = .ok ts) (again : Bool) :
    ∀ relation ∈ items.flatMap FromItem.relations, Reference.Resolves c { relation, ctes, again } := by
  rw [tables_eq] at h
  obtain ⟨tss, hmap, -⟩ := bind_eq_ok.mp h
  clear h
  induction items generalizing tss with
  | nil => nofun
  | cons item items ih =>
    rw [List.mapM_cons] at hmap
    obtain ⟨first, hfirst, hmap⟩ := bind_eq_ok.mp hmap
    obtain ⟨rest, hrest, -⟩ := bind_eq_ok.mp hmap
    intro relation hrelation
    rw [List.flatMap_cons] at hrelation
    rcases List.mem_append.mp hrelation with hrelation | hrelation
    · exact itemTables_resolves hscope again hfirst relation hrelation
    · exact ih rest hrest relation hrelation

theorem tables_rebase {items : List FromItem} (again : Bool) (hscope : scope.Within c ctes)
    (h : c.AgreesOn ((items.flatMap FromItem.relations).map ({ relation := ·, ctes, again })) c') :
    (scope.rebase c').tables items = scope.tables items := by
  have hitems : ∀ item ∈ items, (scope.rebase c').itemTables item = scope.itemTables item := by
    intro item hitem
    refine itemTables_rebase again hscope (h.mono (List.map_subset _ fun relation hrelation => ?_))
    exact List.mem_flatMap.mpr ⟨item, hitem, hrelation⟩
  rw [tables_eq, tables_eq, mapM_congr hitems]

theorem tables_error {items : List FromItem} {e : Error} (h : scope.tables items = .error e) :
    e.isNotFound = true ∨ ∃ what, e = .unsupported what := by
  rw [tables_eq, bind_eq_error] at h
  obtain h | ⟨_, _, ⟨⟩⟩ := h
  induction items with
  | nil => cases h
  | cons item items ih =>
    rw [List.mapM_cons] at h
    obtain h | ⟨_, _, h⟩ := bind_eq_error.mp h
    · exact itemTables_error h
    · obtain h | ⟨_, _, ⟨⟩⟩ := bind_eq_error.mp h
      exact ih h

theorem avoids_tables (items : List FromItem) : Avoids Error.isPositional (scope.tables items) := by
  intro e h
  obtain hnot | ⟨what, rfl⟩ := tables_error h
  · exact isPositional_of_isNotFound hnot
  · rfl

theorem avoids_table (r : RangeVar) : Avoids Error.isPositional (scope.table r) :=
  fun _ h => isPositional_of_isNotFound (table_error h)

theorem targetTables_resolves {target : RangeVar} {items : List FromItem} {ts : List SourceTable}
    (hscope : scope.Within c ctes) (h : scope.targetTables target items = .ok ts) :
    ∀ relation ∈ target.relation :: items.flatMap FromItem.relations,
      Reference.Resolves c { relation, ctes } := by
  obtain ⟨t, htable, h⟩ := bind_eq_ok.mp h
  obtain ⟨ts, htables, -⟩ := bind_eq_ok.mp h
  exact List.forall_mem_cons.mpr
    ⟨table_resolves hscope htable false, tables_resolves hscope htables false⟩

theorem targetTables_rebase {target : RangeVar} {items : List FromItem} (hscope : scope.Within c ctes)
    (h : c.AgreesOn (Refer.relations ctes (target.relation :: items.flatMap FromItem.relations)) c') :
    (scope.rebase c').targetTables target items = scope.targetTables target items := by
  have htable : (scope.rebase c').table target = scope.table target :=
    table_rebase false hscope (h.mono fun r hr => by
      rw [List.mem_singleton.mp hr]
      exact List.mem_cons_self)
  have htables : (scope.rebase c').tables items = scope.tables items :=
    tables_rebase false hscope (h.mono fun r hr => List.mem_cons_of_mem _ hr)
  rw [targetTables, targetTables, htable, htables]

theorem avoids_targetTables (target : RangeVar) (items : List FromItem) :
    Avoids Error.isPositional (scope.targetTables target items) :=
  (avoids_table target).bind fun _ _ => (avoids_tables items).bind fun _ _ => avoids_ok _

theorem columns_eq (scope : Scope) (q : Query) :
    scope.columns q = (do
      let scope' ← scope.addCtes q.ctes
      match q.leftmost? with
      | some s => Output.columns scope'.catalog (← scope'.tables s.sources) s.targets
      | none => pure []) := by
  obtain ⟨ctes, body, _, _, _⟩ := q
  rfl

theorem addCte_eq_ok {cte : Cte} {inner : Scope} (h : scope.addCte cte = .ok inner) :
    ∃ columns, scope.columns cte.query = .ok columns ∧
      inner = scope.insertCte cte.name cte.columns columns := by
  obtain ⟨name, names, q⟩ := cte
  obtain ⟨columns, hcolumns, h⟩ := bind_eq_ok.mp h
  exact ⟨columns, hcolumns, pure_eq_ok_iff.mp h⟩

theorem Within.addCtes {cs : List Cte} {inner : Scope} (hscope : scope.Within c ctes)
    (h : scope.addCtes cs = .ok inner) : inner.Within c (ctes ++ cs.map Cte.name) := by
  induction cs generalizing scope ctes with
  | nil =>
    cases h
    simpa using hscope
  | cons cte cs ih =>
    obtain ⟨middle, hmiddle, h⟩ := bind_eq_ok.mp h
    obtain ⟨columns, -, rfl⟩ := addCte_eq_ok hmiddle
    have hinner := ih (hscope.insertCte cte.name cte.columns columns) h
    rwa [List.append_assoc, List.singleton_append] at hinner

mutual

theorem columns_rebase : (q : Query) → ∀ {ctes : List String} {scope : Scope}, scope.Within c ctes →
    c.AgreesOn (Refer.query ctes q) c' → (scope.rebase c').columns q = scope.columns q
  | ⟨named, main, orderBy, limit, offset⟩, ctes, scope, hscope, h => by
    have hctes : c.AgreesOn (Refer.cteList ctes named) c' := h.mono fun r hr => by
      simp [Refer.query, hr]
    have hfront : c.AgreesOn (Refer.again (ctes ++ named.map Cte.name) main.frontRelations) c' :=
      h.mono fun r hr => by simp [Refer.query, hr]
    rw [columns_eq, columns_eq]
    dsimp only [Query.leftmost?]
    rw [addCtes_rebase named hscope hctes]
    cases hnamed : scope.addCtes named with
    | error e => rfl
    | ok inner =>
      have hinner := hscope.addCtes hnamed
      change (match main.leftmost? with | some s => _ | none => _) =
        (match main.leftmost? with | some s => _ | none => _)
      unfold Body.frontRelations at hfront
      split
      · rename_i s hs
        rw [hs] at hfront
        rw [tables_rebase true hinner hfront]
        refine bind_congr fun level => ?_
        rw [hinner.catalog]
        exact Output.columns_congr h.resolve level s.targets
      · rfl

theorem addCtes_rebase : (cs : List Cte) → ∀ {ctes : List String} {scope : Scope}, scope.Within c ctes →
    c.AgreesOn (Refer.cteList ctes cs) c' → (scope.rebase c').addCtes cs = rebase c' <$> scope.addCtes cs
  | [], _, _, _, _ => rfl
  | ⟨name, names, q⟩ :: cs, ctes, scope, hscope, h => by
    have hq : c.AgreesOn (Refer.query ctes q) c' := h.mono (List.subset_append_left _ _)
    have hcs : c.AgreesOn (Refer.cteList (ctes ++ [name]) cs) c' := h.mono (List.subset_append_right _ _)
    rw [addCtes, addCtes, addCte, addCte, columns_rebase q hscope hq]
    cases scope.columns q with
    | error e => rfl
    | ok columns => exact addCtes_rebase cs (hscope.insertCte name names columns) hcs

end

mutual

theorem avoids_columns (scope : Scope) : (q : Query) → Avoids Error.isPositional (scope.columns q)
  | ⟨named, main, orderBy, limit, offset⟩ => by
    rw [columns_eq]
    refine (avoids_addCtes scope named).bind fun inner _ => ?_
    split
    · exact (avoids_tables _).bind fun level _ => Output.avoids_columns _ level _
    · exact avoids_ok []

theorem avoids_addCtes (scope : Scope) : (cs : List Cte) → Avoids Error.isPositional (scope.addCtes cs)
  | [] => avoids_ok scope
  | ⟨name, names, q⟩ :: cs => by
    rw [addCtes, addCte]
    exact ((avoids_columns scope q).bind fun _ _ => avoids_ok _).bind fun inner _ =>
      avoids_addCtes inner cs

end

theorem statementColumns_rebase {s : Statement} (hscope : scope.Within c []) (h : c.AgreesOn s.lookups c') :
    (scope.rebase c').statementColumns s = scope.statementColumns s := by
  have hcolumns : ∀ tables targets,
      Output.columns c' tables targets = Output.columns scope.catalog tables targets := by
    intro tables targets
    rw [hscope.catalog]
    exact Output.columns_congr h.resolve tables targets
  cases s with
  | select q => exact columns_rebase q hscope h
  | insert i =>
    rw [statementColumns, statementColumns, table_rebase false hscope (h.mono (Refer.insert_tables i))]
    exact bind_congr fun t => hcolumns [t] i.returning
  | update u =>
    rw [statementColumns, statementColumns, targetTables_rebase hscope (h.mono (Refer.update_tables u))]
    exact bind_congr fun tables => hcolumns tables u.returning
  | delete d =>
    rw [statementColumns, statementColumns, targetTables_rebase hscope (h.mono (Refer.delete_tables d))]
    exact bind_congr fun tables => hcolumns tables d.returning
  | truncate _ | define _ | noOp _ | other _ => rfl

theorem avoids_statementColumns (scope : Scope) (s : Statement) :
    Avoids Error.isPositional (scope.statementColumns s) := by
  cases s with
  | select q => exact avoids_columns scope q
  | insert i => exact (avoids_table _).bind fun t _ => Output.avoids_columns _ [t] _
  | update u => exact (avoids_targetTables _ _).bind fun tables _ => Output.avoids_columns _ tables _
  | delete d => exact (avoids_targetTables _ _).bind fun tables _ => Output.avoids_columns _ tables _
  | truncate _ => exact avoids_ok []
  | define _ | noOp _ | other _ => exact avoids_error rfl

end Scope

end TypedSql
