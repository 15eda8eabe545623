import TypedSql.Proofs.Catalog.AlterTable

/-!
# Changes that undo each other

A column that was added can be dropped, a column that was renamed can be given its old name, and a table
that was moved can be moved back. The second change succeeds and leads to the catalog before the first one,
because column names are unique, a table has the name and the schema under which it is stored, and its
columns have its name. A table that is renamed twice comes back without the catalog part of its name.
-/

namespace TypedSql

namespace Table

variable {t t' : Table}

theorem modify_findIdx_append {p : Column → Bool} {before after : List Column} {column : Column}
    (hbefore : ∀ x ∈ before, p x = false) (hcolumn : p column = true) (f : Column → Column) :
    (before ++ column :: after).modify ((before ++ column :: after).findIdx p) f =
      before ++ f column :: after := by
  induction before with
  | nil => simp [List.findIdx_cons, hcolumn]
  | cons x before ih =>
    obtain ⟨hx, hbefore⟩ := List.forall_mem_cons.mp hbefore
    simp [List.findIdx_cons, hx, ih hbefore]

theorem modifyColumn_eq_ok_iff_append {name : String} {f : Column → Column} :
    t.modifyColumn name f = .ok t' ↔
      ∃ before column after, t.columns = before ++ column :: after ∧
        (∀ x ∈ before, x.name ≠ name) ∧ column.name = name ∧
        t' = { t with columns := before ++ f column :: after } := by
  rw [modifyColumn_eq_ok]
  constructor
  · rintro ⟨hmem, rfl⟩
    have hsome : (t.columns.find? (·.name == name)).isSome = true := by
      simpa [columnNames] using hmem
    obtain ⟨column, hfind⟩ := Option.isSome_iff_exists.mp hsome
    obtain ⟨hname, before, after, hsplit, hbefore⟩ := List.find?_eq_some_iff_append.mp hfind
    refine ⟨before, column, after, hsplit, by simpa using hbefore, by simpa using hname, ?_⟩
    rw [hsplit, modify_findIdx_append (by simpa using hbefore) hname]
  · rintro ⟨before, column, after, hsplit, hbefore, hname, rfl⟩
    refine ⟨by simp [columnNames, hsplit, hname], ?_⟩
    rw [hsplit, modify_findIdx_append (by simpa using hbefore) (by simpa using hname)]

theorem dropColumn_of_addColumn {d : ColumnDef} (h : t.addColumn d = .ok t') :
    t'.dropColumn d.name = .ok t := by
  obtain ⟨hfree, rfl⟩ := addColumn_eq_ok.mp h
  have hothers : ∀ x ∈ t.columns, ¬ (x.name == d.name) = true := by
    intro x hx hname
    exact hfree (List.mem_map.mpr ⟨x, hx, by simpa using hname⟩)
  refine dropColumn_eq_ok.mpr ⟨by simp [columnNames, Column.ofDef], ?_⟩
  simp [List.eraseP_append_right _ hothers, Column.ofDef]

theorem renameColumn_of_renameColumn (hnames : t.columnNames.Nodup) {old new : String}
    (h : t.renameColumn old new = .ok t') : t'.renameColumn new old = .ok t := by
  obtain ⟨-, hfree, hmodify⟩ := renameColumn_eq_ok.mp h
  obtain ⟨before, column, after, hsplit, hbefore, rfl, rfl⟩ := modifyColumn_eq_ok_iff_append.mp hmodify
  simp only [columnNames, hsplit, List.map_append, List.map_cons] at hnames hfree
  obtain ⟨hothers, -⟩ := List.nodup_cons.mp (List.nodup_middle.mp hnames)
  -- no column had the new name, so the renamed one is the first that has it now
  have hnew : ∀ x ∈ before, x.name ≠ new := fun x hx hname =>
    hfree (List.mem_append_left _ (List.mem_map.mpr ⟨x, hx, hname⟩))
  refine renameColumn_eq_ok.mpr ⟨by simp [columnNames], ?_, ?_⟩
  · have hne : column.name ≠ new := fun hname => hfree (by simp [hname])
    simpa [columnNames, hne] using hothers
  · exact modifyColumn_eq_ok_iff_append.mpr
      ⟨before, { column with name := new }, after, rfl, hnew, rfl, by rw [← hsplit]⟩

theorem setName_setName (t : Table) (rel rel' : QualifiedName) :
    (t.setName rel).setName rel' = t.setName rel' := by
  simp [setName, Function.comp_def]

theorem setName_eq_self_iff (h : t.WellFormed) {rel : QualifiedName} : t.setName rel = t ↔ rel = t.rel := by
  constructor
  · exact fun hsame => congrArg Table.rel hsame
  · rintro rfl
    have hcolumn : ∀ x ∈ t.columns, { x with table := t.rel } = x := by
      intro x hx
      rw [← h.column_table x hx]
    rw [setName, List.map_congr_left hcolumn, List.map_id']

end Table

namespace Catalog

variable {c : Catalog} {schema name : String} {s : Schema} {t : Table}

theorem WellFormed.wellFormed_of_table (hc : c.WellFormed) {n : QualifiedName} (ht : c.table n = .ok t) :
    t.WellFormed := by
  obtain ⟨s, hs, hget⟩ := table_eq_ok.mp ht
  exact (hc.schema_wellFormed _ s hs).table_wellFormed _ t hget

theorem WellFormed.rel_eq (hc : c.WellFormed) {n : QualifiedName} (ht : c.table n = .ok t) :
    t.rel = { catalog := t.rel.catalog, schema := c.schemaName n, name := n.name } := by
  obtain ⟨s, hs, hget⟩ := table_eq_ok.mp ht
  have hwf := hc.schema_wellFormed _ s hs
  rw [← hc.schema_name _ s hs, ← hwf.table_schema _ t hget, ← hwf.table_name _ t hget]

theorem mapTables_insert_eq_self_iff (hs : c.schemas.get? schema = some s)
    (ht : s.tables.get? name = some t) {u : Table} : c.mapTables schema (·.insert name u) = c ↔ u = t := by
  constructor
  · intro hsame
    have hget : (c.mapTables schema (·.insert name u)).schemas.get? schema = _ := get?_mapTables schema
    rw [hsame, if_pos rfl, hs] at hget
    have htables := congrArg Schema.tables (Option.some.inj hget)
    rw [htables, Dict.get?_insert_self] at ht
    exact Option.some.inj ht
  · rintro rfl
    refine mapTables_eq_self fun s' hs' => ?_
    obtain rfl : s = s' := Option.some.inj (hs.symm.trans hs')
    exact Dict.insert_get? ht

end Catalog

namespace Change

variable {c c' : Catalog} {n : QualifiedName}

/-- Where a change succeeds in a catalog, another one succeeds after it and leads back. -/
def Undoes (back m : Change Unit) (c : Catalog) : Prop :=
  ∀ c', m.apply c = (.ok (), c') → back.apply c' = (.ok (), c)

theorem apply_onTable {f : Table → Except Error Table} {t t' : Table} (ht : c.table n = .ok t)
    (hf : f t = .ok t') :
    (onTable n f).apply c = (.ok (), c.mapTables (c.schemaName n) (·.insert n.name t')) := by
  obtain ⟨s, hs, hget⟩ := Catalog.table_eq_ok.mp ht
  have hmodify : s.modifyTable n.name f = .ok { s with tables := s.tables.insert n.name t' } :=
    Schema.modifyTable_eq_ok.mpr ⟨t, t', hget, hf, rfl⟩
  unfold onTable
  rw [apply_onSchemaOf, apply_onSchema, Catalog.schema_eq_ok.mpr hs, ok_bind, hmodify,
    Catalog.mapTables_of_get? hs]

theorem onTable_undoes {f g : Table → Except Error Table}
    (hfg : ∀ t t', c.table n = .ok t → f t = .ok t' → g t' = .ok t) :
    Undoes (onTable n g) (onTable n f) c := by
  intro c' h
  rcases onTable_cases n f c with ⟨e, hfail⟩ | ⟨t, t', ht, hf, hok⟩
  · rw [hfail] at h
    cases h
  · rw [hok] at h
    obtain rfl := (Prod.mk.inj h).2
    obtain ⟨s, hs, hget⟩ := Catalog.table_eq_ok.mp ht
    have ht' : (c.mapTables (c.schemaName n) (·.insert n.name t')).table n = .ok t' := by
      refine Catalog.table_eq_ok.mpr ?_
      rw [Catalog.schemaName_mapTables, Catalog.get?_mapTables, if_pos rfl, hs]
      exact ⟨_, rfl, Dict.get?_insert_self _ _ _⟩
    rw [apply_onTable ht' (hfg t t' ht hf), Catalog.schemaName_mapTables, Catalog.mapTables_mapTables]
    simp only [Dict.insert_insert]
    rw [(Catalog.mapTables_insert_eq_self_iff hs hget).mpr rfl]

namespace Relocates

variable {source name : String} {rel : QualifiedName}

theorem free_source (hc : c.WellFormed) (h : Relocates c source name rel c') :
    ∃ s, c'.schemas.get? source = some s ∧ s.checkTableFree name = .ok () := by
  obtain ⟨⟨s, t, hs, ht, rfl⟩, u, hu, hnone⟩ := h
  have htypes := (hc.schema_wellFormed source s hs).apart name (Dict.contains_iff.mpr ⟨t, ht⟩)
  have hleft : (c.mapTables source (·.erase name)).schemas.get? source =
      some { s with tables := s.tables.erase name } := by
    rw [Catalog.get?_mapTables, if_pos rfl, hs]
    rfl
  rw [Catalog.get?_mapTables]
  by_cases hsame : source = rel.schema
  · subst hsame
    obtain rfl : s = u := Option.some.inj (hs.symm.trans hu)
    have hne : name ≠ rel.name := by
      rintro rfl
      rw [ht] at hnone
      cases hnone
    rw [if_pos rfl, hleft]
    refine ⟨_, rfl, Schema.checkTableFree_eq_ok.mpr ⟨?_, htypes⟩⟩
    rw [Dict.contains_eq_false_iff, Dict.get?_insert, if_neg hne, Dict.get?_erase, if_pos rfl]
  · rw [if_neg hsame, hleft]
    refine ⟨_, rfl, Schema.checkTableFree_eq_ok.mpr ⟨?_, htypes⟩⟩
    rw [Dict.contains_eq_false_iff, Dict.get?_erase, if_pos rfl]

theorem back (h : Relocates c source name rel c') (u : Table) :
    (c'.mapTables rel.schema (·.erase rel.name)).mapTables source (·.insert name u) =
      c.mapTables source (·.insert name u) := by
  rw [h.erase, Catalog.mapTables_mapTables]
  simp only [Dict.insert_erase]

end Relocates

theorem relocates_of_renameTable (hc : c.WellFormed) {new : String}
    (h : (renameTable n new).apply c = (.ok (), c')) :
    Relocates c (c.schemaName n) n.name (.ofSchema (c.schemaName n) new) c' := by
  rcases renameTable_cases n new hc with ⟨e, hfail⟩ | ⟨c'', hto, hok⟩
  · rw [hfail] at h
    cases h
  · rw [hok] at h
    obtain rfl := (Prod.mk.inj h).2
    exact hto

theorem relocates_of_moveTable (hc : c.WellFormed) {target : String}
    (h : (moveTable n target).apply c = (.ok (), c')) :
    ∃ t, c.table n = .ok t ∧
      Relocates c (c.schemaName n) n.name ⟨t.rel.catalog, target, n.name⟩ c' := by
  rcases moveTable_cases n target hc with ⟨e, hfail⟩ | ⟨t, c'', ht, hto, hok⟩
  · rw [hfail] at h
    cases h
  · rw [hok] at h
    obtain rfl := (Prod.mk.inj h).2
    rw [hc.rel_eq ht] at hto
    exact ⟨t, ht, hto⟩

theorem apply_renameTable_of_free (hc : c.WellFormed) {s : Schema} {t : Table} {new : String}
    (hs : c.schemas.get? (c.schemaName n) = some s) (ht : s.tables.get? n.name = some t)
    (hfree : s.checkTableFree new = .ok ()) :
    (renameTable n new).apply c =
      (.ok (), (c.mapTables (c.schemaName n) (·.erase n.name)).mapTables (c.schemaName n)
        (·.insert new (t.setName (.ofSchema (c.schemaName n) new)))) := by
  rw [apply_renameTable, Catalog.schema_eq_ok.mpr hs]
  dsimp only
  rw [Schema.table_eq_ok.mpr ht, hfree, hc.schema_name _ s hs]
  exact apply_relocate hs ht hs hfree

theorem apply_moveTable_of_free (hc : c.WellFormed) {t : Table} {target : String} {u : Schema}
    (ht : c.table n = .ok t) (hu : c.schemas.get? target = some u)
    (hfree : u.checkTableFree n.name = .ok ()) :
    (moveTable n target).apply c =
      (.ok (), (c.mapTables (c.schemaName n) (·.erase n.name)).mapTables target
        (·.insert n.name (t.setName ⟨t.rel.catalog, target, n.name⟩))) := by
  obtain ⟨s, hs, hget⟩ := Catalog.table_eq_ok.mp ht
  have hrel : { t.rel with schema := target } = (⟨t.rel.catalog, target, n.name⟩ : QualifiedName) := by
    rw [hc.rel_eq ht]
  rw [apply_moveTable, ht, Catalog.schema_eq_ok.mpr hu, ok_bind, hfree]
  dsimp only at hrel ⊢
  rw [hrel]
  exact apply_relocate hs hget hu hfree

theorem dropColumn_undoes (n : QualifiedName) (d : ColumnDef) (c : Catalog) :
    Undoes (dropColumn n d.name) (addColumn n d) c :=
  onTable_undoes fun _ _ _ => Table.dropColumn_of_addColumn

theorem renameColumn_undoes (hc : c.WellFormed) (n : QualifiedName) (old new : String) :
    Undoes (renameColumn n new old) (renameColumn n old new) c :=
  onTable_undoes fun _ _ ht => Table.renameColumn_of_renameColumn (hc.wellFormed_of_table ht).names_nodup

theorem moveTable_undoes (hc : c.WellFormed) (n : QualifiedName) {target : String} (htarget : target ≠ "") :
    Undoes (moveTable { n with schema := target } (c.schemaName n)) (moveTable n target) c := by
  intro c' h
  obtain ⟨t, ht, hto⟩ := relocates_of_moveTable hc h
  have hc' : c'.WellFormed := by simpa only [h] using keeps_moveTable n target c hc
  obtain ⟨s, hs, hget⟩ := Catalog.table_eq_ok.mp ht
  have hthere : c'.schemaName { n with schema := target } = target := Catalog.schemaName_of_ne htarget c' n
  have hmoved : c'.table { n with schema := target } = .ok (t.setName ⟨t.rel.catalog, target, n.name⟩) := by
    refine Catalog.table_eq_ok.mpr ?_
    rw [hthere]
    exact hto.found hs hget
  obtain ⟨u, hu, hfree⟩ := hto.free_source hc
  rw [apply_moveTable_of_free hc' hmoved hu hfree, hthere, Table.setName_setName]
  have hsame : t.setName ⟨t.rel.catalog, c.schemaName n, n.name⟩ = t :=
    (Table.setName_eq_self_iff (hc.wellFormed_of_table ht)).mpr (hc.rel_eq ht).symm
  have hback := hto.back (t.setName ⟨t.rel.catalog, c.schemaName n, n.name⟩)
  rw [(Catalog.mapTables_insert_eq_self_iff hs hget).mpr hsame] at hback
  exact congrArg _ hback

theorem apply_renameTable_back (hc : c.WellFormed) (n : QualifiedName) {new : String}
    (h : (renameTable n new).apply c = (.ok (), c')) :
    ∃ t, c.table n = .ok t ∧
      (renameTable { n with name := new } n.name).apply c' =
        (.ok (), c.mapTables (c.schemaName n) (·.insert n.name (t.setName { t.rel with catalog := "" }))) := by
  have hto := relocates_of_renameTable hc h
  have hc' : c'.WellFormed := by simpa only [h] using keeps_renameTable n new c hc
  obtain ⟨s, t, hs, hget, -⟩ := hto.table
  have ht : c.table n = .ok t := Catalog.table_eq_ok.mpr ⟨s, hs, hget⟩
  have hthere : c'.schemaName { n with name := new } = c.schemaName n := by
    rw [Catalog.schemaName, hto.defaultSchema]
    rfl
  obtain ⟨u, hu, hrenamed⟩ := hto.found hs hget
  obtain ⟨v, hv, hfree⟩ := hto.free_source hc
  obtain rfl : u = v := Option.some.inj (hu.symm.trans hv)
  rw [← hthere] at hv
  refine ⟨t, ht, ?_⟩
  rw [apply_renameTable_of_free hc' hv hrenamed hfree, hthere, Table.setName_setName, hc.rel_eq ht]
  exact congrArg _ (hto.back _)

end Change

namespace Catalog

open Change

/-- In every catalog that operations lead to, dropping a column undoes adding it, renaming a column back
undoes renaming it, and moving a table back undoes moving it into a schema with a name. -/
theorem column_and_schema_changes_undone (settings : Settings) (ops : List Operation) (n : QualifiedName) :
    let c := (initial settings).run ops
    (∀ d : ColumnDef, Undoes (dropColumn n d.name) (addColumn n d) c) ∧
      (∀ old new : String, Undoes (renameColumn n new old) (renameColumn n old new) c) ∧
      ∀ target : String, target ≠ "" →
        Undoes (moveTable { n with schema := target } (c.schemaName n)) (moveTable n target) c := by
  intro c
  have hc : c.WellFormed := run_wellFormed (initial_wellFormed settings) ops
  refine ⟨fun d => dropColumn_undoes n d c, fun old new => renameColumn_undoes hc n old new, ?_⟩
  exact fun target htarget => moveTable_undoes hc n htarget

theorem column_and_schema_changes_undone_orders :
    let ops : List Operation := [.createSchema "archive",
      .createTable ⟨"shop", "public", "orders"⟩ [{ name := "id", type := .ofName "int4" }]]
    let c := (initial {}).run ops
    let n : QualifiedName := .ofName "orders"
    let total : ColumnDef := { name := "total", type := .ofName "int4" }
    (∃ c', (addColumn n total).apply c = (.ok (), c') ∧ (dropColumn n "total").apply c' = (.ok (), c)) ∧
      (∃ c', (renameColumn n "id" "number").apply c = (.ok (), c') ∧
        (renameColumn n "number" "id").apply c' = (.ok (), c)) ∧
      ∃ c', (moveTable n "archive").apply c = (.ok (), c') ∧
        (moveTable (.ofSchema "archive" "orders") "public").apply c' = (.ok (), c) := by
  intro ops c n total
  obtain ⟨hadd, hrename, hmove⟩ := column_and_schema_changes_undone {} ops n
  have hadded : (addColumn n total).apply c = (.ok (), ((addColumn n total).apply c).2) :=
    Prod.ext (by decide +kernel) rfl
  have hrenamed : (renameColumn n "id" "number").apply c =
      (.ok (), ((renameColumn n "id" "number").apply c).2) := Prod.ext (by decide +kernel) rfl
  have hmoved : (moveTable n "archive").apply c = (.ok (), ((moveTable n "archive").apply c).2) :=
    Prod.ext (by decide +kernel) rfl
  refine ⟨⟨_, hadded, hadd total _ hadded⟩, ⟨_, hrenamed, hrename _ _ _ hrenamed⟩, _, hmoved, ?_⟩
  exact hmove "archive" (by decide) _ hmoved

/-- Renaming a table back succeeds after every renaming that succeeds. It leads to the first catalog, but
the name of the table has lost its catalog part. -/
theorem renameTable_back (settings : Settings) (ops : List Operation) (n : QualifiedName) (new : String)
    (c' : Catalog) (h : (renameTable n new).apply ((initial settings).run ops) = (.ok (), c')) :
    let c := (initial settings).run ops
    let back := (renameTable { n with name := new } n.name).apply c'
    ∃ t, c.table n = .ok t ∧
      back = (.ok (), c.mapTables (c.schemaName n)
        (·.insert n.name (t.setName { t.rel with catalog := "" }))) ∧
      (back = (.ok (), c) ↔ t.rel.catalog = "") := by
  intro c back
  have hc : c.WellFormed := run_wellFormed (initial_wellFormed settings) ops
  obtain ⟨t, ht, hback⟩ := apply_renameTable_back hc n h
  obtain ⟨s, hs, hget⟩ := table_eq_ok.mp ht
  refine ⟨t, ht, hback, ?_⟩
  have hlost : { t.rel with catalog := "" } = t.rel ↔ t.rel.catalog = "" := by
    constructor
    · exact fun hsame => (congrArg QualifiedName.catalog hsame).symm
    · exact fun hnone => by rw [← hnone]
  rw [← hlost, ← Table.setName_eq_self_iff (hc.wellFormed_of_table ht),
    ← mapTables_insert_eq_self_iff hs hget]
  constructor
  · exact fun hsame => (Prod.mk.inj (hback.symm.trans hsame)).2
  · exact fun hsame => hback.trans (congrArg _ hsame)

theorem renameTable_back_unqualified :
    let c := (initial {}).run
      [.createTable (.ofName "orders") [{ name := "id", type := .ofName "int4" }]]
    ∃ c', (renameTable ⟨"shop", "public", "orders"⟩ "past").apply c = (.ok (), c') ∧ c' ≠ c ∧
      (renameTable ⟨"shop", "public", "past"⟩ "orders").apply c' = (.ok (), c) := by
  intro c
  have h : (renameTable ⟨"shop", "public", "orders"⟩ "past").apply c =
      (.ok (), ((renameTable ⟨"shop", "public", "orders"⟩ "past").apply c).2) :=
    Prod.ext (by decide +kernel) rfl
  obtain ⟨t, ht, -, hback⟩ := renameTable_back {} _ _ _ _ h
  have hcatalog : ((c.table ⟨"shop", "public", "orders"⟩).toOption.map (·.rel.catalog)) = some "" := by
    decide +kernel
  obtain ⟨u, hu, hnone⟩ := exists_of_map_toOption hcatalog
  obtain rfl : t = u := Except.ok.inj (ht.symm.trans hu)
  exact ⟨_, h, by decide +kernel, hback.mpr hnone⟩

/-- A table that was created with a catalog part in its name does not get it back. -/
theorem renameTable_back_of_catalog :
    let c := (initial {}).run [.createTable ⟨"shop", "public", "orders"⟩ []]
    let renamed := (renameTable (.ofName "orders") "past").apply c
    let back := (renameTable (.ofName "past") "orders").apply renamed.2
    renamed.1 = .ok () ∧ back.1 = .ok () ∧ back.2 ≠ c := by
  decide +kernel

end Catalog

end TypedSql
