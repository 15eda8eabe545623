import TypedSql.Proofs.Catalog.Reachable

/-!
# Changes that fail

An elementary change either does all that it says or fails and leaves the catalog as it was. Most changes
look before they write once. A table is renamed or moved in two writes, and the checks before the first
one are what keeps the second from failing.
-/

namespace TypedSql

namespace Catalog

def mapTables (c : Catalog) (schema : String) (f : Dict Table → Dict Table) : Catalog :=
  match c.schemas.get? schema with
  | none => c
  | some s => { c with schemas := c.schemas.insert schema { s with tables := f s.tables } }

variable {c : Catalog} {schema : String} {s : Schema} {f g : Dict Table → Dict Table}

theorem mapTables_of_get? (h : c.schemas.get? schema = some s) :
    c.mapTables schema f =
      { c with schemas := c.schemas.insert schema { s with tables := f s.tables } } := by
  unfold mapTables
  rw [h]

@[simp] theorem defaultSchema_mapTables : (c.mapTables schema f).defaultSchema = c.defaultSchema := by
  unfold mapTables
  split <;> rfl

theorem get?_mapTables (k : String) :
    (c.mapTables schema f).schemas.get? k =
      if k = schema then (c.schemas.get? schema).map fun s => { s with tables := f s.tables }
      else c.schemas.get? k := by
  unfold mapTables
  split
  · rename_i hnone
    by_cases hk : k = schema
    · rw [if_pos hk, hk, hnone]
      rfl
    · rw [if_neg hk]
  · rename_i s hs
    rw [Dict.get?_insert, hs]
    rfl

theorem mapTables_mapTables :
    (c.mapTables schema f).mapTables schema g = c.mapTables schema fun tables => g (f tables) := by
  cases hs : c.schemas.get? schema with
  | none =>
    have hsame : ∀ f, c.mapTables schema f = c := fun f => by rw [mapTables, hs]
    rw [hsame, hsame, hsame]
  | some s =>
    have hget : (c.mapTables schema f).schemas.get? schema = some { s with tables := f s.tables } := by
      rw [get?_mapTables, if_pos rfl, hs]
      rfl
    rw [mapTables_of_get? hget, mapTables_of_get? hs, mapTables_of_get? hs]
    dsimp only
    rw [Dict.insert_insert]

theorem get?_erase_of_free (source name : String) {target free : String} {u : Schema}
    (hu : c.schemas.get? target = some u) (hfree : u.tables.get? free = none) :
    ∃ v, (c.mapTables source (·.erase name)).schemas.get? target = some v ∧
      v.tables.get? free = none ∧ v.types = u.types := by
  rw [get?_mapTables]
  by_cases hsame : target = source
  · subst hsame
    rw [if_pos rfl, hu]
    refine ⟨_, rfl, ?_, rfl⟩
    rw [Dict.get?_erase, hfree, ite_self]
  · rw [if_neg hsame]
    exact ⟨u, hu, hfree, rfl⟩

theorem mapTables_eq_self (h : ∀ s, c.schemas.get? schema = some s → f s.tables = s.tables) :
    c.mapTables schema f = c := by
  unfold mapTables
  split
  · rfl
  · rename_i s hs
    rw [h s hs, Dict.insert_get? hs]

end Catalog

namespace Change

variable {α : Type}

theorem onTable_cases (n : QualifiedName) (f : Table → Except Error Table) (c : Catalog) :
    (∃ e, (onTable n f).apply c = (.error e, c)) ∨
      ∃ t t', c.table n = .ok t ∧ f t = .ok t' ∧
        (onTable n f).apply c = (.ok (), c.mapTables (c.schemaName n) (·.insert n.name t')) := by
  unfold onTable
  rw [apply_onSchemaOf, apply_onSchema]
  split
  · rename_i s' hs'
    right
    obtain ⟨s, hs, hmodify⟩ := bind_eq_ok.mp hs'
    obtain ⟨t, t', hget, hf, rfl⟩ := Schema.modifyTable_eq_ok.mp hmodify
    have hs := Catalog.schema_eq_ok.mp hs
    refine ⟨t, t', Catalog.table_eq_ok.mpr ⟨s, hs, hget⟩, hf, ?_⟩
    rw [Catalog.mapTables_of_get? hs]
  · exact .inl ⟨_, rfl⟩

theorem apply_relocate {c : Catalog} {source name target : String} {s u : Schema} {old t : Table}
    (hs : c.schemas.get? source = some s) (hold : s.tables.get? name = some old)
    (hu : c.schemas.get? target = some u) (hfree : u.checkTableFree t.rel.name = .ok ()) :
    (relocate source name target t).apply c =
      (.ok (), (c.mapTables source (·.erase name)).mapTables target (·.insert t.rel.name t)) := by
  have hremove : (onSchema source (·.removeTable name)).apply c =
      (.ok (), c.mapTables source (·.erase name)) := by
    have hok : s.removeTable name = .ok { s with tables := s.tables.erase name } :=
      Schema.removeTable_eq_ok.mpr ⟨⟨old, hold⟩, rfl⟩
    rw [apply_onSchema, Catalog.schema_eq_ok.mpr hs, ok_bind, hok, Catalog.mapTables_of_get? hs]
  obtain ⟨htables, htypes⟩ := Schema.checkTableFree_eq_ok.mp hfree
  obtain ⟨v, hv, hvtables, hvtypes⟩ :=
    Catalog.get?_erase_of_free source name hu (Dict.contains_eq_false_iff.mp htables)
  have hfreev : v.tables.contains t.rel.name = false ∧ v.types.contains t.rel.name = false :=
    ⟨Dict.contains_eq_false_iff.mpr hvtables, hvtypes ▸ htypes⟩
  have hinsert : (onSchema target (·.insertTable t)).apply (c.mapTables source (·.erase name)) =
      (.ok (), (c.mapTables source (·.erase name)).mapTables target (·.insert t.rel.name t)) := by
    have hok : v.insertTable t = .ok { v with tables := v.tables.insert t.rel.name t } :=
      Schema.insertTable_eq_ok.mpr ⟨hfreev, rfl⟩
    rw [apply_onSchema, Catalog.schema_eq_ok.mpr hv, ok_bind, hok, Catalog.mapTables_of_get? hv]
  unfold relocate
  rw [apply_bind, hremove]
  exact hinsert

/-- A table that goes to a free name in a schema, and the catalog that this leads to. -/
structure Relocates (c : Catalog) (source name : String) (rel : QualifiedName) (c' : Catalog) : Prop where
  table : ∃ s t, c.schemas.get? source = some s ∧ s.tables.get? name = some t ∧
    c' = (c.mapTables source (·.erase name)).mapTables rel.schema (·.insert rel.name (t.setName rel))
  free : ∃ u, c.schemas.get? rel.schema = some u ∧ u.tables.get? rel.name = none

theorem renameTable_cases (n : QualifiedName) (new : String) {c : Catalog} (hc : c.WellFormed) :
    (∃ e, (renameTable n new).apply c = (.error e, c)) ∨
      ∃ c', Relocates c (c.schemaName n) n.name (.ofSchema (c.schemaName n) new) c' ∧
        (renameTable n new).apply c = (.ok (), c') := by
  rw [apply_renameTable]
  split
  · exact .inl ⟨_, rfl⟩
  rename_i s hs
  have hs := Catalog.schema_eq_ok.mp hs
  split
  · exact .inl ⟨_, rfl⟩
  · exact .inl ⟨_, rfl⟩
  · rename_i t _ ht hfree
    have ht := Schema.table_eq_ok.mp ht
    have hname := hc.schema_name _ s hs
    have hnone := Dict.contains_eq_false_iff.mp (Schema.checkTableFree_eq_ok.mp hfree).1
    rw [hname]
    exact .inr ⟨_, ⟨⟨s, t, hs, ht, rfl⟩, s, hs, hnone⟩, apply_relocate hs ht hs hfree⟩

theorem moveTable_cases (n : QualifiedName) (target : String) {c : Catalog} (hc : c.WellFormed) :
    (∃ e, (moveTable n target).apply c = (.error e, c)) ∨
      ∃ t c', c.table n = .ok t ∧
        Relocates c (c.schemaName n) n.name { t.rel with schema := target } c' ∧
        (moveTable n target).apply c = (.ok (), c') := by
  rw [apply_moveTable]
  split
  · exact .inl ⟨_, rfl⟩
  · exact .inl ⟨_, rfl⟩
  · rename_i t _ htable hcheck
    obtain ⟨s, hs, ht⟩ := Catalog.table_eq_ok.mp htable
    obtain ⟨u, hu, hfree⟩ := bind_eq_ok.mp hcheck
    have hu := Catalog.schema_eq_ok.mp hu
    have hname : t.rel.name = n.name := (hc.schema_wellFormed _ s hs).table_name _ t ht
    have hnone := Dict.contains_eq_false_iff.mp (Schema.checkTableFree_eq_ok.mp hfree).1
    refine .inr ⟨t, _, htable, ⟨⟨s, t, hs, ht, rfl⟩, u, hu, ?_⟩, ?_⟩
    · rw [← hname] at hnone
      exact hnone
    · rw [← hname] at hfree
      exact apply_relocate hs ht hu hfree

/-- In catalogs with a property, a change that fails leaves the catalog as it was. -/
def Atomic (P : Catalog → Prop) (m : Change α) : Prop :=
  ∀ c, P c → ∀ e, (m.apply c).1 = .error e → (m.apply c).2 = c

variable {P : Catalog → Prop}

theorem atomic_throw (e : Error) : Atomic P (throw e : Change α) :=
  fun _ _ _ _ => rfl

theorem atomic_onSchema (name : String) (f : Schema → Except Error Schema) :
    Atomic P (onSchema name f) := by
  intro c _ e h
  rw [apply_onSchema] at h ⊢
  cases hs : c.schema name >>= f with
  | ok s' =>
    rw [hs] at h
    cases h
  | error e' => rfl

theorem atomic_onSchemaOf (n : QualifiedName) (f : Schema → Except Error Schema) :
    Atomic P (onSchemaOf n f) := by
  intro c hc e h
  rw [apply_onSchemaOf] at h ⊢
  exact atomic_onSchema _ f c hc e h

theorem atomic_onTable (n : QualifiedName) (f : Table → Except Error Table) : Atomic P (onTable n f) :=
  atomic_onSchemaOf n _

theorem atomic_createSchema (name : String) : Atomic P (createSchema name) := by
  intro c _ e h
  rw [apply_createSchema] at h ⊢
  split at h
  · rename_i hin
    rw [if_pos hin]
  · cases h

theorem atomic_dropSchema (name : String) : Atomic P (dropSchema name) := by
  intro c _ e h
  rw [apply_dropSchema] at h ⊢
  cases hs : c.schema name with
  | ok s =>
    rw [hs] at h
    cases h
  | error e' => rfl

theorem atomic_createTable (n : QualifiedName) (columns : List ColumnDef) :
    Atomic P (createTable n columns) := by
  intro c hc e h
  rw [apply_createTable] at h ⊢
  split at h
  · rfl
  · exact atomic_onSchema _ _ c hc e h

theorem atomic_createFunction (schema : String) (f : Function) (replace : Bool) :
    Atomic P (createFunction schema f replace) := by
  intro c hc e h
  rw [apply_createFunction] at h ⊢
  exact atomic_onSchema _ _ c hc e h

theorem atomic_renameTable (n : QualifiedName) (new : String) :
    Atomic Catalog.WellFormed (renameTable n new) := by
  intro c hc e h
  rcases renameTable_cases n new hc with ⟨e', hfail⟩ | ⟨c', -, hok⟩
  · rw [hfail]
  · rw [hok] at h
    cases h

theorem atomic_moveTable (n : QualifiedName) (target : String) :
    Atomic Catalog.WellFormed (moveTable n target) := by
  intro c hc e h
  rcases moveTable_cases n target hc with ⟨e', hfail⟩ | ⟨t, c', -, -, hok⟩
  · rw [hfail]
  · rw [hok] at h
    cases h

theorem atomic_setComment (target : CommentTarget QualifiedName) (comment : Option String) :
    Atomic P (setComment target comment) := by
  cases target with
  | schema name => exact atomic_onSchema name _
  | table n => exact atomic_onTable n _
  | type n => exact atomic_onSchemaOf n _
  | column path =>
    change Atomic P (setColumnComment path comment)
    unfold setColumnComment
    split
    · exact atomic_onTable _ _
    · exact atomic_onTable _ _
    · exact atomic_onTable _ _
    · exact atomic_throw _

end Change

namespace Operation

theorem atomic_change (op : Operation) (h : op.isElementary = true) :
    Change.Atomic Catalog.WellFormed op.change := by
  cases op with
  | createSchema name => exact Change.atomic_createSchema name
  | dropSchema name => exact Change.atomic_dropSchema name
  | createTable n columns => exact Change.atomic_createTable n columns
  | dropTable n => exact Change.atomic_onSchemaOf n _
  | renameTable n new => exact Change.atomic_renameTable n new
  | moveTable n target => exact Change.atomic_moveTable n target
  | addColumn n column => exact Change.atomic_onTable n _
  | dropColumn n column => exact Change.atomic_onTable n _
  | setColumnType n column type => exact Change.atomic_onTable n _
  | setNotNull n column notNull => exact Change.atomic_onTable n _
  | renameColumn n old new => exact Change.atomic_onTable n _
  | createEnum n labels => exact Change.atomic_onSchemaOf n _
  | createComposite n => exact Change.atomic_onSchemaOf n _
  | dropType n => exact Change.atomic_onSchemaOf n _
  | createFunction schema f replace => exact Change.atomic_createFunction schema f replace
  | dropFunction s => exact Change.atomic_onSchemaOf s.name _
  | setComment target comment => exact Change.atomic_setComment target comment
  | replay s => cases h

end Operation

namespace Catalog

/-- An elementary operation that fails leaves every catalog that operations lead to as it was. -/
theorem after_eq_of_error (settings : Settings) (ops : List Operation) (op : Operation)
    (hop : op.isElementary = true) (e : Error)
    (h : (op.change.apply ((initial settings).run ops)).1 = .error e) :
    ((initial settings).run ops).after op = (initial settings).run ops := by
  have hc := run_wellFormed (initial_wellFormed settings) ops
  exact op.atomic_change hop _ hc e h

theorem after_renameTable_collision :
    let c := (initial {}).run
      [.createTable (.ofName "orders") [], .createTable (.ofName "invoices") []]
    let op : Operation := .renameTable (.ofName "orders") "invoices"
    (op.change.apply c).1 = .error (.relationAlreadyExists "invoices") ∧ c.after op = c := by
  intro c op
  have hfail : (op.change.apply c).1 = .error (.relationAlreadyExists "invoices") := by
    decide +kernel
  exact ⟨hfail, after_eq_of_error {} _ op rfl _ hfail⟩

end Catalog

end TypedSql
