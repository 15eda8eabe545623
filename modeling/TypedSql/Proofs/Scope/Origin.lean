import TypedSql.Output
import TypedSql.Proofs.Catalog.Reachable
import TypedSql.Proofs.Scope.Joins

/-!
# Origins of columns

A column keeps a reference to the table that it was read from, through joins, new names and `coalesce`, and
an embedded column one to the table that it is embedded with. A reference into a schema is genuine: the
catalog has the table, and the table has a column of this type. Columns of named queries refer to these,
which are in no schema.
-/

namespace TypedSql

variable {c : Catalog}

/-- The references of a column into a schema are right. -/
structure TypedColumn.Genuine (c : Catalog) (column : TypedColumn) : Prop where
  table : ∀ r, column.table = some r → r.schema ≠ "" → ∃ t, c.table r = .ok t ∧ t.rel = r ∧
    ∃ k ∈ t.columns, k.dataType = column.dataType ∧ k.isArray = column.isArray ∧ k.dims = column.dims
  embed : ∀ r, column.embed = some r → r.schema ≠ "" → ∃ t, c.table r = .ok t ∧ t.rel = r

abbrev TypedColumn.AllGenuine (c : Catalog) (columns : List TypedColumn) : Prop :=
  ∀ column ∈ columns, column.Genuine c

theorem TypedColumn.genuine_of_none {column : TypedColumn} (htable : column.table = none)
    (hembed : column.embed = none) : column.Genuine c := by
  constructor
  · intro r hr
    rw [htable] at hr
    cases hr
  · intro r hr
    rw [hembed] at hr
    cases hr

theorem TypedColumn.Genuine.rename {column : TypedColumn} (h : column.Genuine c) (name : String) :
    (column.rename name).Genuine c :=
  ⟨h.table, h.embed⟩

theorem Catalog.WellFormed.table_rel (hc : c.WellFormed) {n : QualifiedName} {t : Table}
    (ht : c.table n = .ok t) (hschema : t.rel.schema ≠ "") : c.table t.rel = .ok t := by
  obtain ⟨s, hs, hget⟩ := Catalog.table_eq_ok.mp ht
  have hwf := hc.schema_wellFormed _ s hs
  have hname : c.schemaName t.rel = c.schemaName n := by
    rw [← hc.schema_name _ s hs, ← hwf.table_schema _ t hget, Catalog.schemaName, QualifiedName.schemaOr,
      if_neg (by simpa using hschema)]
  refine Catalog.table_eq_ok.mpr ⟨s, hname ▸ hs, ?_⟩
  rw [hwf.table_name _ t hget]
  exact hget

namespace SourceTable

structure Genuine (c : Catalog) (t : SourceTable) : Prop where
  rel : t.rel.schema ≠ "" → ∃ u, c.table t.rel = .ok u ∧ u.rel = t.rel
  columns : ∀ column ∈ t.columns, column.Genuine c

abbrev AllGenuine (c : Catalog) (ts : List SourceTable) : Prop :=
  ∀ t ∈ ts, t.Genuine c

theorem genuine_ofTable (hc : c.WellFormed) {n : QualifiedName} {t : Table} (ht : c.table n = .ok t)
    (name : String) : (ofTable name t).Genuine c := by
  obtain ⟨s, hs, hget⟩ := Catalog.table_eq_ok.mp ht
  have hwf := (hc.schema_wellFormed _ s hs).table_wellFormed _ t hget
  refine ⟨fun hschema => ⟨t, hc.table_rel ht hschema, rfl⟩, fun column hcolumn => ?_⟩
  obtain ⟨k, hk, rfl⟩ := List.mem_map.mp hcolumn
  refine ⟨fun r hr hschema => ?_, fun r hr => ?_⟩
  · obtain rfl : t.rel = r := (hwf.column_table k hk).symm.trans (Option.some.inj hr)
    exact ⟨t, hc.table_rel ht hschema, rfl, k, hk, rfl, rfl, rfl⟩
  · cases hr

theorem Genuine.nullable {t : SourceTable} (h : t.Genuine c) : t.nullable.Genuine c := by
  refine ⟨h.rel, fun column hcolumn => ?_⟩
  obtain ⟨k, hk, rfl⟩ := List.mem_map.mp hcolumn
  exact ⟨(h.columns k hk).table, (h.columns k hk).embed⟩

theorem Genuine.column? {t : SourceTable} (h : t.Genuine c) {name : String} {column : TypedColumn}
    (hcolumn : t.column? name = some column) : column.Genuine c :=
  h.columns column (List.mem_of_find?_eq_some hcolumn)

theorem Genuine.targetColumn {t : SourceTable} (h : t.Genuine c) (name : String) :
    Yields (TypedColumn.Genuine c) (t.targetColumn name) := by
  unfold SourceTable.targetColumn
  split
  · rename_i column hcolumn
    exact yields_ok (h.column? hcolumn)
  · exact yields_error _

end SourceTable

section Lookup

variable {tables : List SourceTable} (htables : SourceTable.AllGenuine c tables)

include htables

theorem genuine_findColumn (path : List String) :
    Yields (fun found => ∀ p ∈ found, TypedColumn.Genuine c p.2) (findColumn tables path) := by
  have hreach : ∀ p ∈ tables.filterMap (SourceTable.reach? path), TypedColumn.Genuine c p.2 := by
    intro p hp
    obtain ⟨t, ht, hreach⟩ := List.mem_filterMap.mp hp
    rw [SourceTable.reach?] at hreach
    split at hreach
    · obtain ⟨column, hcolumn, rfl⟩ := Option.map_eq_some_iff.mp hreach
      exact (htables t ht).column? hcolumn
    · cases hreach
  unfold findColumn
  split
  · exact yields_error _
  · split
    · exact yields_ok (by simp)
    · rename_i found hfound
      refine yields_ok fun p hp => hreach p ?_
      obtain rfl := Option.some.inj hp
      rw [hfound]
      exact List.mem_singleton_self _
    · exact yields_error _

theorem genuine_resolveColumn (path : List String) :
    Yields (fun found => TypedColumn.Genuine c found.2) (resolveColumn tables path) := by
  refine (genuine_findColumn htables path).bind fun found hfound => ?_
  cases found with
  | none => exact yields_error _
  | some found => exact yields_ok (hfound found rfl)

theorem genuine_starTables (qualifier : List String) :
    Yields (SourceTable.AllGenuine c) (starTables tables qualifier) := by
  unfold starTables
  split
  · exact yields_ok htables
  · dsimp only
    split
    · exact yields_error _
    · exact yields_ok fun t ht => htables t (List.mem_of_mem_filter ht)

end Lookup

namespace Scope

variable {scope : Scope}

structure Genuine (c : Catalog) (scope : Scope) : Prop where
  catalog : scope.catalog = c
  wellFormed : c.WellFormed
  ctes : ∀ name t, scope.ctes.get? name = some t → t.Genuine c

theorem genuine_of_catalog (hc : c.WellFormed) : Genuine c { catalog := c } :=
  ⟨rfl, hc, fun _ _ h => by cases h⟩

theorem Genuine.table (h : scope.Genuine c) (r : RangeVar) :
    Yields (SourceTable.Genuine c) (scope.table r) := by
  unfold Scope.table
  dsimp only
  split
  · rename_i t ht
    split at ht
    · have hgenuine := h.ctes _ t ht
      exact yields_ok ⟨hgenuine.rel, hgenuine.columns⟩
    · cases ht
  · rw [h.catalog]
    intro t ht
    obtain ⟨u, hu, ht⟩ := bind_eq_ok.mp ht
    obtain rfl := pure_eq_ok_iff.mp ht
    exact SourceTable.genuine_ofTable h.wellFormed hu _

theorem genuine_join {left right : List SourceTable} (kind : JoinKind)
    (hleft : SourceTable.AllGenuine c left) (hright : SourceTable.AllGenuine c right) :
    SourceTable.AllGenuine c (join kind left right) := by
  have hnullable : ∀ {ts}, SourceTable.AllGenuine c ts →
      SourceTable.AllGenuine c (ts.map SourceTable.nullable) := by
    intro ts hts t ht
    obtain ⟨u, hu, rfl⟩ := List.mem_map.mp ht
    exact (hts u hu).nullable
  cases kind with
  | inner => exact List.forall_mem_append.mpr ⟨hleft, hright⟩
  | left => exact List.forall_mem_append.mpr ⟨hleft, hnullable hright⟩
  | right => exact List.forall_mem_append.mpr ⟨hnullable hleft, hright⟩
  | full => exact List.forall_mem_append.mpr ⟨hnullable hleft, hnullable hright⟩

theorem Genuine.itemTables (h : scope.Genuine c) (item : FromItem) :
    Yields (SourceTable.AllGenuine c) (scope.itemTables item) := by
  fun_induction scope.itemTables item with
  | case1 r => exact (h.table r).bind fun _ ht => yields_ok (List.forall_mem_singleton.mpr ht)
  | case2 kind left right _ hleft hright =>
    exact hleft.bind fun _ hleft => hright.bind fun _ hright => yields_ok (genuine_join kind hleft hright)
  | case3 item => exact yields_error _

theorem Genuine.tables (h : scope.Genuine c) (items : List FromItem) :
    Yields (SourceTable.AllGenuine c) (scope.tables items) := by
  rw [tables_eq]
  refine (yields_mapM fun item _ => h.itemTables item).bind fun tss htss => yields_ok ?_
  intro t ht
  obtain ⟨ts, hts, ht⟩ := List.mem_flatten.mp ht
  exact htss ts hts t ht

theorem Genuine.targetTables (h : scope.Genuine c) (target : RangeVar) (sources : List FromItem) :
    Yields (SourceTable.AllGenuine c) (scope.targetTables target sources) :=
  (h.table target).bind fun _ ht => (h.tables sources).bind
    fun _ hts => yields_ok (List.forall_mem_cons.mpr ⟨ht, hts⟩)

end Scope

namespace Output

variable {tables : List SourceTable} (htables : SourceTable.AllGenuine c tables)

include htables

theorem genuine_starColumns (star : StarRef) :
    Yields (TypedColumn.AllGenuine c) (starColumns tables star) := by
  refine (genuine_starTables htables star.qualifier).bind fun ts hts => yields_ok fun column hcolumn => ?_
  obtain ⟨t, ht, hcolumn⟩ := List.mem_flatMap.mp hcolumn
  have hgenuine := hts t ht
  split at hcolumn
  · obtain ⟨k, hk, rfl⟩ := List.mem_map.mp hcolumn
    refine ⟨(hgenuine.columns k hk).table, ?_⟩
    rintro _ ⟨⟩
    exact hgenuine.rel
  · exact hgenuine.columns column hcolumn

theorem genuine_callColumn (catalog : Catalog) (call : Call) (args : List Expr) :
    Yields (TypedColumn.Genuine c) (callColumn catalog tables call args) := by
  unfold callColumn
  split
  · unfold coalesceColumn
    split
    · refine (genuine_resolveColumn htables _).bind fun found hfound => yields_ok ?_
      exact ⟨hfound.table, hfound.embed⟩
    · exact yields_ok (TypedColumn.genuine_of_none rfl rfl)
  · split
    · exact yields_ok (TypedColumn.genuine_of_none rfl rfl)
    · exact yields_ok (TypedColumn.genuine_of_none rfl rfl)

theorem genuine_exprColumns (catalog : Catalog) (e : Expr) :
    Yields (TypedColumn.AllGenuine c)
      (exprColumns catalog tables e) := by
  have hplain : ∀ column : TypedColumn, column.table = none → column.embed = none →
      Yields (TypedColumn.AllGenuine c)
        (.ok [column] : Except Error (List TypedColumn)) := fun column htable hembed =>
    yields_ok (List.forall_mem_singleton.mpr (TypedColumn.genuine_of_none htable hembed))
  unfold exprColumns
  split
  · exact genuine_starColumns htables _
  · exact (genuine_resolveColumn htables _).bind fun _ h => yields_ok (List.forall_mem_singleton.mpr h)
  · exact (genuine_callColumn htables catalog _ _).bind
      fun _ h => yields_ok (List.forall_mem_singleton.mpr h)
  · unfold operatorColumns
    split
    · exact hplain _ rfl rfl
    · split
      · exact hplain _ rfl rfl
      · exact yields_ok (List.forall_mem_nil _)
  · exact hplain _ rfl rfl
  · exact hplain _ rfl rfl
  · exact hplain _ rfl rfl
  · exact hplain _ rfl rfl
  · exact hplain _ rfl rfl
  · exact yields_ok (List.forall_mem_nil _)

theorem genuine_targetColumns (catalog : Catalog) (t : Target) :
    Yields (TypedColumn.AllGenuine c)
      (targetColumns catalog tables t) := by
  refine (genuine_exprColumns htables catalog t.value).bind fun columns hcolumns => yields_ok ?_
  split
  · intro column hcolumn
    obtain ⟨k, hk, rfl⟩ := List.mem_map.mp hcolumn
    exact (hcolumns k hk).rename _
  · exact hcolumns

theorem genuine_columns (catalog : Catalog) (targets : List Target) :
    Yields (TypedColumn.AllGenuine c)
      (columns catalog tables targets) := by
  refine (yields_mapM fun t _ => genuine_targetColumns htables catalog t).bind fun css hcss => yields_ok ?_
  intro column hcolumn
  obtain ⟨cs, hcs, hcolumn⟩ := List.mem_flatten.mp hcolumn
  exact hcss cs hcs column hcolumn

end Output

namespace Scope

theorem genuine_nameColumns {rel : QualifiedName} (hrel : rel.schema = "") (names : List String)
    {columns : List TypedColumn} (h : TypedColumn.AllGenuine c columns) :
    TypedColumn.AllGenuine c (nameColumns rel names columns) := by
  have hnamed : ∀ column : TypedColumn, column.Genuine c → ∀ name,
      TypedColumn.Genuine c { column with name, table := some rel } := by
    refine fun column hcolumn name => ⟨?_, hcolumn.embed⟩
    rintro _ ⟨⟩ hschema
    exact absurd hrel hschema
  fun_induction nameColumns rel names columns with
  | case1 name names column columns ih =>
    obtain ⟨hfirst, hrest⟩ := List.forall_mem_cons.mp h
    exact List.forall_mem_cons.mpr ⟨hnamed column hfirst name, ih hrest⟩
  | case2 columns =>
    intro column hcolumn
    obtain ⟨k, hk, rfl⟩ := List.mem_map.mp hcolumn
    exact hnamed k (h k hk) k.name
  | case3 => exact h

variable {scope : Scope}

theorem Genuine.insertCte (h : scope.Genuine c) (name : String) (names : List String)
    {columns : List TypedColumn} (hcolumns : TypedColumn.AllGenuine c columns) :
    (scope.insertCte name names columns).Genuine c := by
  refine ⟨h.catalog, h.wellFormed, fun k t ht => ?_⟩
  rw [Scope.insertCte, Dict.get?_insert] at ht
  split at ht
  · obtain rfl := Option.some.inj ht
    exact ⟨fun hschema => absurd rfl hschema, genuine_nameColumns rfl names hcolumns⟩
  · exact h.ctes k t ht

mutual

theorem Genuine.columns {scope : Scope} (h : scope.Genuine c) : (q : Query) →
    Yields (TypedColumn.AllGenuine c) (scope.columns q)
  | ⟨ctes, body, _, _, _⟩ => by
    rw [Scope.columns]
    refine (h.addCtes ctes).bind fun inner hinner => ?_
    split
    · exact (hinner.tables _).bind fun _ htables => Output.genuine_columns htables _ _
    · exact yields_ok (List.forall_mem_nil _)

theorem Genuine.addCtes {scope : Scope} (h : scope.Genuine c) :
    (cs : List Cte) → Yields (Genuine c) (scope.addCtes cs)
  | [] => yields_ok h
  | cte :: cs => (h.addCte cte).bind fun _ hinner => hinner.addCtes cs

theorem Genuine.addCte {scope : Scope} (h : scope.Genuine c) :
    (cte : Cte) → Yields (Genuine c) (scope.addCte cte)
  | ⟨name, names, q⟩ => (h.columns q).bind fun _ hcolumns => yields_ok (h.insertCte name names hcolumns)

end

theorem Genuine.statementColumns (h : scope.Genuine c) (s : Statement) :
    Yields (TypedColumn.AllGenuine c) (scope.statementColumns s) := by
  cases s with
  | select q => exact h.columns q
  | insert i =>
    refine (h.table i.relation).bind fun t ht => ?_
    exact Output.genuine_columns (List.forall_mem_singleton.mpr ht) _ _
  | update u =>
    exact (h.targetTables u.relation u.sources).bind fun _ hts => Output.genuine_columns hts _ _
  | delete d =>
    exact (h.targetTables d.relation d.sources).bind fun _ hts => Output.genuine_columns hts _ _
  | truncate => exact yields_ok (List.forall_mem_nil _)
  | define | noOp | other => exact yields_error _

end Scope

end TypedSql
