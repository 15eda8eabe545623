import TypedSql.Proofs.Catalog.AlterTable
import TypedSql.Proofs.Expansion.Lookups
import TypedSql.Proofs.Inference.Lookups
import TypedSql.Proofs.TypedQuery.Steps

/-!
# Tables of analysed statements

An analysis finds the tables that a statement refers to, but for those of a truncation, and depends on the
catalog only by the tables that it looks up. These are the references at their own places, and the tables of
left-most selects once more, as the queries around them see them.
-/

namespace TypedSql

namespace Catalog

variable {c c' : Catalog} {n : QualifiedName}

/-- Catalogs that have the same functions in the schemas of each name, and look for them in the same order. -/
structure SameFunctions (c c' : Catalog) : Prop where
  path : c'.functionPath = c.functionPath
  functions : ∀ name, (c'.schemas.get? name).map Schema.functions = (c.schemas.get? name).map Schema.functions

theorem SameFunctions.get?_cases (h : c.SameFunctions c') (name : String) :
    c'.schemas.get? name = none ∧ c.schemas.get? name = none ∨
      ∃ s s', c'.schemas.get? name = some s' ∧ c.schemas.get? name = some s ∧ s'.functions = s.functions := by
  have hfunctions := h.functions name
  cases hget : c.schemas.get? name with
  | none =>
    rw [hget, Option.map_none, Option.map_eq_none_iff] at hfunctions
    exact .inl ⟨hfunctions, rfl⟩
  | some s =>
    rw [hget, Option.map_some, Option.map_eq_some_iff] at hfunctions
    obtain ⟨s', hs', heq⟩ := hfunctions
    exact .inr ⟨s, s', hs', rfl, heq⟩

theorem SameFunctions.resolve_eq (h : c.SameFunctions c') (call : Call) : c'.resolve call = c.resolve call := by
  have hbind (name : String) : (c'.schemas.get? name).bind (callee? · call) =
      (c.schemas.get? name).bind (callee? · call) := by
    obtain ⟨hnone', hnone⟩ | ⟨s, s', hs', hs, heq⟩ := h.get?_cases name
    · rw [hnone', hnone]
    · rw [hs', hs, Option.bind_some, Option.bind_some, callee?, callee?, heq]
  unfold resolve
  simp only [h.path, hbind]
  split
  · rfl
  · unfold Catalog.schema
    obtain ⟨hnone', hnone⟩ | ⟨s, s', hs', hs, heq⟩ := h.get?_cases call.schema
    · rw [hnone', hnone]
    · rw [hs', hs]
      simp only [pure_eq_ok, ok_bind, callee?, heq]

theorem sameFunctions_mapTables (schema : String) (f : Dict Table → Dict Table) :
    c.SameFunctions (c.mapTables schema f) := by
  constructor
  · unfold mapTables
    split <;> rfl
  · intro name
    rw [get?_mapTables]
    split
    · rename_i hname
      rw [hname, Option.map_map]
      rfl
    · rfl

theorem table_without_of_ne {m : QualifiedName}
    (h : ¬ (c.schemaName m = c.schemaName n ∧ m.name = n.name)) : (c.without n).table m = c.table m := by
  have hname : (c.without n).schemaName m = c.schemaName m := by
    rw [schemaName, without, defaultSchema_mapTables, schemaName]
  have hget : (c.without n).schemas.get? (c.schemaName m) = if c.schemaName m = c.schemaName n then
      (c.schemas.get? (c.schemaName n)).map fun s => { s with tables := s.tables.erase n.name }
      else c.schemas.get? (c.schemaName m) := get?_mapTables _
  unfold table schema
  rw [hname, hget]
  by_cases hschema : c.schemaName m = c.schemaName n
  · rw [if_pos hschema, hschema]
    cases c.schemas.get? (c.schemaName n) with
    | none => rfl
    | some s =>
      change Schema.table { s with tables := s.tables.erase n.name } m.name = s.table m.name
      unfold Schema.table
      rw [Dict.get?_erase, if_neg fun heq => h ⟨hschema, heq⟩]
  · rw [if_neg hschema]

theorem defaultSchema_of_without (hsame : c'.without n = c.without n) :
    c'.defaultSchema = c.defaultSchema := by
  have heq := congrArg defaultSchema hsame
  simpa [without] using heq

theorem agreesOn_of_without {refs : List Reference} (hsame : c'.without n = c.without n)
    (h : ∀ r ∈ refs, ¬ r.Means c n) : c.AgreesOn refs c' := by
  have hname : ∀ m, c'.schemaName m = c.schemaName m := fun m => by
    rw [schemaName, schemaName, defaultSchema_of_without hsame]
  constructor
  · intro call
    calc c'.resolve call
      _ = (c'.without n).resolve call := ((sameFunctions_mapTables _ _).resolve_eq call).symm
      _ = (c.without n).resolve call := by rw [hsame]
      _ = c.resolve call := (sameFunctions_mapTables _ _).resolve_eq call
  · intro r hr hcte
    have hne : ¬ (c.schemaName r.relation = c.schemaName n ∧ r.relation.name = n.name) :=
      fun heq => h r hr ⟨hcte, heq⟩
    calc c'.table r.relation
      _ = (c'.without n).table r.relation := by
        rw [table_without_of_ne]
        rwa [hname, hname]
      _ = (c.without n).table r.relation := by rw [hsame]
      _ = c.table r.relation := table_without_of_ne hne

end Catalog

namespace TypedQuery

/-- Where a statement is analysed, its table references all mean something exactly if the tables of a
truncation are there. All others have been looked up. -/
theorem ofStatement_references_iff {c : Catalog} {settings : Settings} {s : SourceStatement}
    {q : TypedQuery} (h : ofStatement c settings s = .ok q) :
    (∀ r ∈ s.statement.references, r.Resolves c) ↔
      ∀ n ∈ s.statement.truncated, ∃ t, c.table n = .ok t := by
  have hlookups := Scope.params_resolves (steps_of_ok h).params
  rw [Statement.lookups, SourceStatement.numbered, Refer.statement_renumber] at hlookups
  constructor
  · intro hrefs n hn
    obtain hcte | htable := hrefs { relation := n, ctes := [] }
      (List.mem_append_right _ (List.mem_map_of_mem hn))
    · simp [Reference.isCte] at hcte
    · exact htable
  · intro htruncated r hr
    rcases List.mem_append.mp hr with hr | hr
    · exact hlookups r (List.mem_filter.mp hr).1
    · obtain ⟨n, hn, rfl⟩ := List.mem_map.mp hr
      exact .inr (htruncated n hn)

theorem ofStatement_references_nested :
    let t := Table.ofDefs (.ofSchema "public" "t") [{ name := "a", type := .ofName "int" }]
    let c := (Catalog.initial {}).mapTables "public" (·.insert "t" t)
    ∃ s, Script.parseOne "WITH x AS (SELECT a FROM t) SELECT a FROM x WHERE EXISTS (SELECT 1 FROM t)".toList =
        .ok s ∧
      s.statement.references =
        [⟨.ofName "t", [], false⟩, ⟨.ofName "x", ["x"], false⟩, ⟨.ofName "t", ["x"], false⟩] ∧
      ∀ r ∈ s.statement.references, r.Resolves c := by
  intro t c
  have hread : (Script.parseOne
      "WITH x AS (SELECT a FROM t) SELECT a FROM x WHERE EXISTS (SELECT 1 FROM t)".toList).toOption.map
      (fun s => (s.statement.references, s.statement.truncated, (ofStatement c {} s).isOk)) =
      some ([⟨.ofName "t", [], false⟩, ⟨.ofName "x", ["x"], false⟩, ⟨.ofName "t", ["x"], false⟩], [], true) := by
    decide +kernel
  cases hs : Script.parseOne
      "WITH x AS (SELECT a FROM t) SELECT a FROM x WHERE EXISTS (SELECT 1 FROM t)".toList with
  | error e =>
    rw [hs] at hread
    cases hread
  | ok s =>
    rw [hs] at hread
    obtain ⟨hrefs, hrest⟩ := Prod.mk.inj (Option.some.inj hread)
    obtain ⟨htruncated, hok⟩ := Prod.mk.inj hrest
    obtain ⟨q, hq⟩ := exists_of_isOk hok
    refine ⟨s, rfl, hrefs, (ofStatement_references_iff hq).mpr fun n hn => ?_⟩
    rw [htruncated] at hn
    cases hn

/-- The tables of a truncation need not be there. -/
theorem ofStatement_truncates_nothing :
    ∃ s, Script.parseOne "TRUNCATE t".toList = .ok s ∧ (ofStatement (.initial {}) {} s).isOk ∧
      ¬ ∀ r ∈ s.statement.references, r.Resolves (.initial {}) := by
  have hread : (Script.parseOne "TRUNCATE t".toList).toOption.map
      (fun s => (s.statement.references, (ofStatement (.initial {}) {} s).isOk)) =
      some ([⟨.ofName "t", [], false⟩], true) := by
    decide +kernel
  cases hs : Script.parseOne "TRUNCATE t".toList with
  | error e =>
    rw [hs] at hread
    cases hread
  | ok s =>
    rw [hs] at hread
    obtain ⟨hrefs, hok⟩ := Prod.mk.inj (Option.some.inj hread)
    refine ⟨s, rfl, hok, fun hall => ?_⟩
    rw [hrefs] at hall
    have hmissing : ((Catalog.initial {}).table (.ofName "t")).isOk = false := by decide +kernel
    obtain hcte | ⟨t, ht⟩ := hall _ (List.mem_singleton_self _)
    · cases hcte
    · rw [ht] at hmissing
      cases hmissing

/-- An analysis over two catalogs that differ in one table only gives the same answer or the same error if
no table reference of the statement means that table, and none that is looked up once more does. -/
theorem ofStatement_eq_of_without {c c' : Catalog} {n : QualifiedName} (settings : Settings)
    {s : SourceStatement} (hsame : c'.without n = c.without n)
    (hrefs : ∀ r ∈ s.statement.references, ¬ r.Means c n)
    (hagain : ∀ r ∈ s.statement.lookups, r.again = true → ¬ r.Means c n) :
    ofStatement c' settings s = ofStatement c settings s := by
  have hlookups : ∀ r ∈ s.statement.lookups, ¬ r.Means c n := by
    intro r hr
    cases hr' : r.again with
    | true => exact hagain r hr hr'
    | false => exact hrefs r (List.mem_append_left _ (List.mem_filter.mpr ⟨hr, by rw [hr']; rfl⟩))
  have htarget : ∀ t, insertTarget? c' t = insertTarget? c t := by
    intro t
    cases t with
    | insert i =>
      rw [insertTarget?, insertTarget?, Catalog.qualify, Catalog.qualify, Catalog.schemaName,
        Catalog.schemaName, Catalog.defaultSchema_of_without hsame]
    | _ => rfl
  unfold ofStatement
  refine bind_congr fun kind => bind_congr fun _ => ?_
  cases hnumbered : Numbered.ofStatement s.statement s.chunk.sites.named with
  | error e => rfl
  | ok numbered =>
    have hagree : c.AgreesOn numbered.statement.lookups c' := by
      rw [SourceStatement.numbered_of_ok hnumbered, Statement.lookups, SourceStatement.numbered,
        Refer.statement_renumber]
      exact Catalog.agreesOn_of_without hsame hlookups
    have hcolumns : Scope.statementColumns { catalog := c' } numbered.statement = _ :=
      Scope.statementColumns_rebase (Scope.within_nil c) hagree
    have hstars : Expansion.statement (!settings.expandStars) { catalog := c' } numbered.statement = _ :=
      Expansion.statement_rebase (Scope.within_nil c) hagree
    rw [ok_bind, ok_bind]
    dsimp only
    rw [Scope.params_rebase hagree, hcolumns, hstars, htarget]

theorem ofStatement_eq_of_without_shadowed :
    let c := Catalog.initial {}
    let c' := c.mapTables "public" (·.insert "x" { rel := .ofSchema "public" "x", columns := [] })
    ∃ s, Script.parseOne "WITH x AS (SELECT 1::int AS a) SELECT a FROM x".toList = .ok s ∧
      (c'.table (.ofName "x")).isOk ∧ (ofStatement c {} s).isOk ∧
      ofStatement c' {} s = ofStatement c {} s := by
  intro c c'
  have hread : (Script.parseOne "WITH x AS (SELECT 1::int AS a) SELECT a FROM x".toList).toOption.map
      (fun s => (decide (∀ r ∈ s.statement.references, ¬ r.Means c (.ofName "x")),
        decide (∀ r ∈ s.statement.lookups, r.again = true → ¬ r.Means c (.ofName "x")),
        (ofStatement c {} s).isOk)) = some (true, true, true) := by
    decide +kernel
  cases hs : Script.parseOne "WITH x AS (SELECT 1::int AS a) SELECT a FROM x".toList with
  | error e =>
    rw [hs] at hread
    cases hread
  | ok s =>
    rw [hs] at hread
    obtain ⟨hrefs, hrest⟩ := Prod.mk.inj (Option.some.inj hread)
    obtain ⟨hagain, hok⟩ := Prod.mk.inj hrest
    refine ⟨s, rfl, by decide +kernel, hok, ?_⟩
    exact ofStatement_eq_of_without {} (Catalog.without_insert (n := .ofName "x") _)
      (of_decide_eq_true hrefs) (of_decide_eq_true hagain)

/-- Behind parentheses a named query is looked for in the catalog once more. -/
theorem ofStatement_ne_of_without_parenthesised :
    let c := Catalog.initial {}
    let x := Table.ofDefs (.ofSchema "public" "x") [{ name := "a", type := .ofName "text" }]
    let c' := c.mapTables "public" (·.insert "x" x)
    c'.without (.ofName "x") = c.without (.ofName "x") ∧
      (Script.parseOne "(WITH x AS (SELECT 1::int AS a) SELECT a FROM x)".toList).toOption.map
        (fun s => (s.statement.references, (ofStatement c {} s).isOk, (ofStatement c' {} s).isOk)) =
      some ([⟨.ofName "x", ["x"], false⟩], false, true) := by
  exact ⟨Catalog.without_insert (n := .ofName "x") _, by decide +kernel⟩

end TypedQuery

end TypedSql
