import TypedSql.Expansion
import TypedSql.Proofs.Scope

/-!
# Tables that an expansion looks up

An expansion looks up tables that the statement refers to, and no others. So over catalogs that agree on
these it makes the same edits, or fails alike.
-/

namespace TypedSql

namespace Expansion

variable {c c' : Catalog} {embedsOnly : Bool}

theorem insertCte_eq_ok {scope inner : Scope} {edits : List Edit} {cte : Cte}
    (h : Expansion.cte embedsOnly scope cte = .ok (inner, edits)) :
    ∃ columns, inner = scope.insertCte cte.name cte.columns columns := by
  obtain ⟨name, names, q⟩ := cte
  obtain ⟨_, -, h⟩ := bind_eq_ok.mp h
  obtain ⟨columns, -, h⟩ := bind_eq_ok.mp h
  cases h
  exact ⟨columns, rfl⟩

theorem within_ctes {cs : List Cte} {ctes : List String} {scope inner : Scope} {edits : List Edit}
    (hscope : scope.Within c ctes) (h : Expansion.ctes embedsOnly scope cs = .ok (inner, edits)) :
    inner.Within c (ctes ++ cs.map Cte.name) := by
  induction cs generalizing scope edits ctes with
  | nil =>
    cases h
    simpa using hscope
  | cons cte cs ih =>
    obtain ⟨⟨middle, _⟩, hmiddle, h⟩ := bind_eq_ok.mp h
    obtain ⟨⟨last, _⟩, hlast, h⟩ := bind_eq_ok.mp h
    cases h
    obtain ⟨columns, rfl⟩ := insertCte_eq_ok hmiddle
    have hinner := ih (hscope.insertCte cte.name cte.columns columns) hlast
    rwa [List.append_assoc, List.singleton_append] at hinner

mutual

theorem query_rebase : (q : Query) → ∀ {ctes : List String} {scope : Scope}, scope.Within c ctes →
    c.AgreesOn (Refer.query ctes q) c' → query embedsOnly (scope.rebase c') q = query embedsOnly scope q
  | ⟨named, main, orderBy, limit, offset⟩, ctes, scope, hscope, h => by
    have hnamed : c.AgreesOn (Refer.cteList ctes named) c' := h.mono fun r hr => by
      simp [Refer.query, hr]
    have hmain : c.AgreesOn (Refer.body (ctes ++ named.map Cte.name) main) c' := h.mono fun r hr => by
      simp [Refer.query, hr]
    rw [query, query, ctes_rebase named hscope hnamed]
    cases hctes : Expansion.ctes embedsOnly scope named with
    | error e => rfl
    | ok p =>
      obtain ⟨inner, edits⟩ := p
      change (do return edits ++ (← body embedsOnly (inner.rebase c') main)) =
        (do return edits ++ (← body embedsOnly inner main))
      rw [body_rebase main (within_ctes hscope hctes) hmain]

theorem ctes_rebase : (cs : List Cte) → ∀ {ctes : List String} {scope : Scope}, scope.Within c ctes →
    c.AgreesOn (Refer.cteList ctes cs) c' →
    Expansion.ctes embedsOnly (scope.rebase c') cs =
      Prod.map (Scope.rebase c') id <$> Expansion.ctes embedsOnly scope cs
  | [], _, _, _, _ => rfl
  | ⟨name, names, q⟩ :: cs, ctes, scope, hscope, h => by
    have hq : c.AgreesOn (Refer.query ctes q) c' := h.mono (List.subset_append_left _ _)
    have hcs : c.AgreesOn (Refer.cteList (ctes ++ [name]) cs) c' := h.mono (List.subset_append_right _ _)
    rw [Expansion.ctes, Expansion.ctes, cte, cte, query_rebase q hscope hq, Scope.columns_rebase q hscope hq]
    cases query embedsOnly scope q with
    | error e => rfl
    | ok edits =>
      cases scope.columns q with
      | error e => rfl
      | ok columns =>
        have hrest := ctes_rebase cs (hscope.insertCte name names columns) hcs
        change (Expansion.ctes embedsOnly ((scope.insertCte name names columns).rebase c') cs >>= _) =
          _ <$> (Expansion.ctes embedsOnly (scope.insertCte name names columns) cs >>= _)
        rw [hrest]
        cases Expansion.ctes embedsOnly (scope.insertCte name names columns) cs <;> rfl

theorem body_rebase : (b : Body) → ∀ {ctes : List String} {scope : Scope}, scope.Within c ctes →
    c.AgreesOn (Refer.body ctes b) c' → body embedsOnly (scope.rebase c') b = body embedsOnly scope b
  | .select ⟨distinct, items, sources, selection, groupBy, having⟩, ctes, scope, hscope, h => by
    have hsources : c.AgreesOn (Refer.relations ctes (sources.flatMap FromItem.relations)) c' :=
      h.mono fun r hr => by
        obtain ⟨relation, hrelation, rfl⟩ := List.mem_map.mp hr
        simp [Refer.body, Refer.select, Refer.mem_sources hrelation]
    rw [body, body, Scope.tables_rebase false hscope hsources]
  | .setOp _ left right, ctes, scope, hscope, h => by
    rw [body, body, body_rebase left hscope (h.mono (List.subset_append_left _ _)),
      body_rebase right hscope (h.mono (List.subset_append_right _ _))]
  | .values _, _, _, _, _ => rfl
  | .query q, ctes, scope, hscope, h => query_rebase q hscope h

end

theorem statement_rebase {s : Statement} {scope : Scope} (hscope : scope.Within c [])
    (h : c.AgreesOn s.lookups c') :
    statement embedsOnly (scope.rebase c') s = statement embedsOnly scope s := by
  cases s with
  | select q => exact query_rebase q hscope h
  | insert i =>
    have hsource : source embedsOnly (scope.rebase c') i.source = source embedsOnly scope i.source := by
      cases hi : i.source with
      | none => rfl
      | some q =>
        refine query_rebase q hscope (h.mono fun r hr => ?_)
        simp [Statement.lookups, Refer.statement, hi, hr]
    rw [statement, statement, hsource, Scope.table_rebase false hscope (h.mono (Refer.insert_tables i))]
  | update u =>
    rw [statement, statement, Scope.targetTables_rebase hscope (h.mono (Refer.update_tables u))]
  | delete d =>
    rw [statement, statement, Scope.targetTables_rebase hscope (h.mono (Refer.delete_tables d))]
  | truncate _ | define _ | noOp _ | other _ => rfl

end Expansion

end TypedSql
