import TypedSql.Proofs.Catalog.Atomic

/-!
# Commands that alter a table

The commands of one statement are elementary operations on one table, done one after another. Two of them
give the table another name, by which the next ones find it. Nothing else in the catalog is touched.
-/

namespace TypedSql

namespace TableChange

def operation? (n : QualifiedName) : TableChange → Option Operation
  | .addColumn column _ => some (.addColumn n column)
  | .dropColumn column _ => some (.dropColumn n column)
  | .setNotNull column => some (.setNotNull n column true)
  | .dropNotNull column => some (.setNotNull n column false)
  | .setType column type => some (.setColumnType n column type)
  | .renameColumn old new => some (.renameColumn n old new)
  | .renameTable new => some (.renameTable n new)
  | .setSchema schema => some (.moveTable n schema)
  | .unsupported _ => none

def follow (n : QualifiedName) : TableChange → QualifiedName
  | .renameTable new => { n with name := new }
  | .setSchema schema => { n with schema }
  | _ => n

def forgives : TableChange → Error → Bool
  | .addColumn _ ifNotExists, e => ifNotExists && e.isAlreadyExists
  | .dropColumn _ ifExists, e => ifExists && e.isNotFound
  | _, _ => false

end TableChange

namespace Change.Relocates

variable {c c' : Catalog} {source name : String} {rel : QualifiedName}

theorem defaultSchema (h : Relocates c source name rel c') : c'.defaultSchema = c.defaultSchema := by
  obtain ⟨⟨s, t, -, -, rfl⟩, -⟩ := h
  rw [Catalog.defaultSchema_mapTables, Catalog.defaultSchema_mapTables]

theorem found (h : Relocates c source name rel c') {s : Schema} {t : Table}
    (hs : c.schemas.get? source = some s) (ht : s.tables.get? name = some t) :
    ∃ u, c'.schemas.get? rel.schema = some u ∧ u.tables.get? rel.name = some (t.setName rel) := by
  obtain ⟨⟨s', t', hs', ht', rfl⟩, w, hw, hnone⟩ := h
  obtain rfl : s = s' := Option.some.inj (hs.symm.trans hs')
  obtain rfl : t = t' := Option.some.inj (ht.symm.trans ht')
  obtain ⟨v, hv, -⟩ := Catalog.get?_erase_of_free source name hw hnone
  rw [Catalog.get?_mapTables, if_pos rfl, hv]
  exact ⟨_, rfl, Dict.get?_insert_self _ _ _⟩

theorem erase (h : Relocates c source name rel c') :
    c'.mapTables rel.schema (·.erase rel.name) = c.mapTables source (·.erase name) := by
  obtain ⟨⟨u, t, -, -, rfl⟩, w, hw, hnone⟩ := h
  obtain ⟨v, hv, hfree, -⟩ := Catalog.get?_erase_of_free source name hw hnone
  rw [Catalog.mapTables_mapTables]
  simp only [Dict.erase_insert]
  refine Catalog.mapTables_eq_self fun v' hv' => ?_
  obtain rfl : v = v' := Option.some.inj (hv.symm.trans hv')
  exact Dict.erase_of_get?_eq_none hfree

end Change.Relocates

/-- How far commands got: whether an error stopped them, and the name of the table and the catalog at
that point. -/
structure Alteration where
  result : Except Error Unit
  name : QualifiedName
  catalog : Catalog

namespace Catalog

/-- Does commands one after another. Those that are not supported and those whose failure is forgiven do
nothing, and any other failure ends it. -/
def alter (c : Catalog) (n : QualifiedName) : List TableChange → Alteration
  | [] => { result := .ok (), name := n, catalog := c }
  | change :: rest =>
    match change.operation? n with
    | none => c.alter n rest
    | some op =>
      match op.change.apply c with
      | (.ok _, c') => c'.alter (change.follow n) rest
      | (.error e, _) =>
        if change.forgives e then c.alter n rest else { result := .error e, name := n, catalog := c }

def without (c : Catalog) (n : QualifiedName) : Catalog :=
  c.mapTables (c.schemaName n) (·.erase n.name)

theorem schemaName_of_ne {s : String} (h : s ≠ "") (c : Catalog) (n : QualifiedName) :
    c.schemaName { n with schema := s } = s := by
  simp [schemaName, QualifiedName.schemaOr, h]

theorem schemaName_qualify (c : Catalog) (n : QualifiedName) :
    c.schemaName (c.qualify n) = c.schemaName n := by
  simp only [qualify, schemaName, QualifiedName.schemaOr]
  split <;> simp_all

theorem table_qualify (c : Catalog) (n : QualifiedName) : c.table (c.qualify n) = c.table n := by
  unfold table
  rw [schemaName_qualify]
  rfl

/-- One catalog has under one name what another one has under another name, and all else is the same in
both. -/
structure Follows (c : Catalog) (n : QualifiedName) (c' : Catalog) (n' : QualifiedName) : Prop where
  table : ∃ t, c'.table n' = .ok t
  without : c'.without n' = c.without n

variable {c c' c'' : Catalog} {n n' n'' : QualifiedName}

theorem Follows.trans (h : c.Follows n c' n') (h' : c'.Follows n' c'' n'') : c.Follows n c'' n'' :=
  ⟨h'.table, h'.without.trans h.without⟩

@[simp] theorem schemaName_mapTables (schema : String) (f : Dict Table → Dict Table) :
    (c.mapTables schema f).schemaName n = c.schemaName n := by
  unfold schemaName
  rw [defaultSchema_mapTables]

theorem without_insert (t : Table) :
    (c.mapTables (c.schemaName n) (·.insert n.name t)).without n = c.without n := by
  unfold without
  rw [schemaName_mapTables, mapTables_mapTables]
  simp only [Dict.erase_insert]

theorem follows_insert {t t' : Table} (h : c.table n = .ok t) :
    c.Follows n (c.mapTables (c.schemaName n) (·.insert n.name t')) n := by
  obtain ⟨s, hs, -⟩ := table_eq_ok.mp h
  refine ⟨⟨t', table_eq_ok.mpr ?_⟩, without_insert t'⟩
  rw [schemaName_mapTables, get?_mapTables, if_pos rfl, hs]
  exact ⟨_, rfl, Dict.get?_insert_self _ _ _⟩

theorem follows_relocates {rel : QualifiedName} (h : Change.Relocates c (c.schemaName n) n.name rel c')
    (hschema : c.schemaName n' = rel.schema) (hname : n'.name = rel.name) : c.Follows n c' n' := by
  have hdefault : c'.schemaName n' = rel.schema := by
    rw [← hschema, schemaName, schemaName, h.defaultSchema]
  constructor
  · obtain ⟨s, t, hs, ht, -⟩ := h.table
    refine ⟨t.setName rel, table_eq_ok.mpr ?_⟩
    rw [hdefault, hname]
    exact h.found hs ht
  · unfold without
    rw [hdefault, hname, h.erase]

end Catalog

namespace TableChange

variable {c : Catalog} {n : QualifiedName}

theorem onTable_follows (f : Table → Except Error Table) (c : Catalog) (n : QualifiedName) :
    (∃ e, (Change.onTable n f).apply c = (.error e, c)) ∨
      ∃ c', (Change.onTable n f).apply c = (.ok (), c') ∧ c.Follows n c' n := by
  rcases Change.onTable_cases n f c with hfail | ⟨t, t', ht, -, hok⟩
  · exact .inl hfail
  · exact .inr ⟨_, hok, Catalog.follows_insert ht⟩

theorem operation_follows (hc : c.WellFormed) {change : TableChange}
    (hschema : ∀ s, change = .setSchema s → s ≠ "") {op : Operation}
    (hop : change.operation? n = some op) :
    (∃ e, op.change.apply c = (.error e, c)) ∨
      ∃ c', op.change.apply c = (.ok (), c') ∧ c.Follows n c' (change.follow n) := by
  cases change with
  | renameTable new =>
    obtain rfl := Option.some.inj hop
    rcases Change.renameTable_cases n new hc with hfail | ⟨c', hto, hok⟩
    · exact .inl hfail
    · exact .inr ⟨c', hok, Catalog.follows_relocates hto rfl rfl⟩
  | setSchema s =>
    obtain rfl := Option.some.inj hop
    rcases Change.moveTable_cases n s hc with hfail | ⟨t, c', ht, hto, hok⟩
    · exact .inl hfail
    · obtain ⟨u, hu, hget⟩ := Catalog.table_eq_ok.mp ht
      have hname : t.rel.name = n.name := (hc.schema_wellFormed _ u hu).table_name _ t hget
      -- an empty schema would stand for the default one, where the table is not
      have hs := Catalog.schemaName_of_ne (hschema s rfl) c n
      exact .inr ⟨c', hok, Catalog.follows_relocates hto hs hname.symm⟩
  | unsupported kind => cases hop
  | _ =>
    obtain rfl := Option.some.inj hop
    exact onTable_follows _ c n

theorem apply_then {m : Change Unit} (hm : ∀ e, (m.apply c).1 = .error e → (m.apply c).2 = c)
    (n' : QualifiedName) :
    (m >>= fun _ => pure n').apply c =
      match m.apply c with
      | (.ok _, c') => (.ok n', c')
      | (.error e, _) => (.error e, c) := by
  rw [Change.apply_bind]
  rcases h : m.apply c with ⟨e | a, c'⟩
  · rw [h] at hm
    rw [show c' = c from hm e rfl]
  · rfl

theorem apply_forgive_then {m : Change Unit} (hm : ∀ e, (m.apply c).1 = .error e → (m.apply c).2 = c)
    (allowed : Bool) (family : Error → Bool) (n' : QualifiedName) :
    (m.forgive allowed family >>= fun _ => pure n').apply c =
      match m.apply c with
      | (.ok _, c') => (.ok n', c')
      | (.error e, _) => if allowed && family e then (.ok n', c) else (.error e, c) := by
  rw [Change.apply_bind, Change.apply_forgive]
  rcases h : m.apply c with ⟨e | a, c'⟩
  · rw [h] at hm
    rw [show c' = c from hm e rfl]
    cases hforgives : allowed && family e <;> simp only [hforgives] <;> rfl
  · rfl

theorem apply_replay (hc : c.WellFormed) (n : QualifiedName) (change : TableChange) :
    (change.replay n).apply c =
      match change.operation? n with
      | none => (.ok n, c)
      | some op =>
        match op.change.apply c with
        | (.ok _, c') => (.ok (change.follow n), c')
        | (.error e, _) => if change.forgives e then (.ok n, c) else (.error e, c) := by
  cases change with
  | addColumn column ifNotExists =>
    exact apply_forgive_then (Change.atomic_onTable n _ c hc) ifNotExists _ n
  | dropColumn column ifExists =>
    exact apply_forgive_then (Change.atomic_onTable n _ c hc) ifExists _ n
  | renameTable new => exact apply_then (Change.atomic_renameTable n new c hc) _
  | setSchema s => exact apply_then (Change.atomic_moveTable n s c hc) _
  | unsupported kind => rfl
  | _ => exact apply_then (Change.atomic_onTable n _ c hc) n

end TableChange

namespace Catalog

variable {c : Catalog} {n : QualifiedName}

theorem apply_foldlM_replay (hc : c.WellFormed) (n : QualifiedName) (changes : List TableChange) :
    (changes.foldlM TableChange.replay n).apply c =
      ((c.alter n changes).result.map fun _ => (c.alter n changes).name, (c.alter n changes).catalog) := by
  induction changes generalizing c n with
  | nil => rfl
  | cons change rest ih =>
    have hkeeps := TableChange.keeps_replay Operation.kept_wellFormed n change c hc
    rw [List.foldlM_cons, Change.apply_bind]
    rw [TableChange.apply_replay hc] at hkeeps ⊢
    cases hop : change.operation? n with
    | none =>
      simp only [alter, hop]
      exact ih hc n
    | some op =>
      rcases hrun : op.change.apply c with ⟨e | a, c'⟩
      · simp only [alter, hop, hrun]
        cases change.forgives e with
        | true => exact ih hc n
        | false => rfl
      · simp only [alter, hop, hrun] at hkeeps ⊢
        exact ih hkeeps (change.follow n)

theorem alter_follows (hc : c.WellFormed) (htable : ∃ t, c.table n = .ok t) {changes : List TableChange}
    (hschemas : ∀ s, .setSchema s ∈ changes → s ≠ "") :
    c.Follows n (c.alter n changes).catalog (c.alter n changes).name := by
  -- from one command to the next, the table is found under the name of that point
  induction changes generalizing c n with
  | nil => exact ⟨htable, rfl⟩
  | cons change rest ih =>
    have hrest : ∀ s, .setSchema s ∈ rest → s ≠ "" := fun s hs => hschemas s (.tail _ hs)
    have hchange : ∀ s, change = .setSchema s → s ≠ "" := by
      rintro s rfl
      exact hschemas s (.head _)
    cases hop : change.operation? n with
    | none =>
      simp only [alter, hop]
      exact ih hc htable hrest
    | some op =>
      rcases TableChange.operation_follows hc hchange hop with ⟨e, hfail⟩ | ⟨c', hok, hfollows⟩
      · simp only [alter, hop, hfail]
        split
        · exact ih hc htable hrest
        · exact ⟨htable, rfl⟩
      · have hc' := Operation.kept_wellFormed.keeps_change op c hc
        rw [hok] at hc'
        simp only [alter, hop, hok]
        exact hfollows.trans (ih hc' hfollows.table hrest)

theorem apply_replayChanges_of_table {table : QualifiedName} {t : Table} (ht : c.table table = .ok t)
    (ifExists : Bool) (changes : List TableChange) :
    (Definition.replayChanges table ifExists changes).apply c =
      (changes.foldlM TableChange.replay (c.qualify table) >>= fun _ =>
        pure (Outcome.ofChanges changes)).apply c := by
  unfold Definition.replayChanges
  rw [Change.apply_get_bind]
  dsimp only
  rw [table_qualify, ht]

theorem apply_replayChanges (hc : c.WellFormed) {table : QualifiedName}
    (htable : ∃ t, c.table table = .ok t) (ifExists : Bool) (changes : List TableChange) :
    (Definition.replayChanges table ifExists changes).apply c =
      ((c.alter (c.qualify table) changes).result.map fun _ => Outcome.ofChanges changes,
        (c.alter (c.qualify table) changes).catalog) := by
  obtain ⟨t, ht⟩ := htable
  rw [apply_replayChanges_of_table ht, Change.apply_bind, apply_foldlM_replay hc]
  cases (c.alter (c.qualify table) changes).result <;> rfl

/-- Altering a table that is there does its commands in order, each under the name that the ones before
it have given to the table. It ends before the first command with a failure that is not forgiven. The
table is still there, and without it the catalog is the one that it was. -/
theorem replay_alterTable (settings : Settings) (ops : List Operation) (table : QualifiedName)
    (ifExists : Bool) (changes : List TableChange)
    (htable : ∃ t, ((initial settings).run ops).table table = .ok t)
    (hschemas : ∀ s, .setSchema s ∈ changes → s ≠ "") :
    let c := (initial settings).run ops
    let a := c.alter (c.qualify table) changes
    (Statement.define (.alterTable table ifExists changes)).replay.apply c =
        (a.result.map fun _ => Outcome.ofChanges changes, a.catalog) ∧
      (∃ t, a.catalog.table a.name = .ok t) ∧
      a.catalog.without a.name = c.without table := by
  intro c a
  have hc : c.WellFormed := run_wellFormed (initial_wellFormed settings) ops
  have hqualified : ∃ t, c.table (c.qualify table) = .ok t := by
    rw [table_qualify]
    exact htable
  have hfollows : c.Follows (c.qualify table) a.catalog a.name := alter_follows hc hqualified hschemas
  refine ⟨apply_replayChanges hc htable ifExists changes, hfollows.table, ?_⟩
  rw [hfollows.without]
  unfold without
  rw [schemaName_qualify]
  rfl

theorem replay_alterTable_stopped :
    let c := (initial {}).run
      [.createSchema "archive", .createTable (.ofName "orders") [], .createTable (.ofName "old") []]
    let total : TableChange := .addColumn { name := "total", type := .ofName "int4" } false
    let changes : List TableChange :=
      [total, .renameTable "past", .setSchema "archive", .unsupported "OwnerTo",
        .dropColumn "paid" true, total, .dropColumn "total" false]
    let past : QualifiedName := .ofSchema "archive" "past"
    ∃ c', (Statement.define (.alterTable (.ofName "orders") false changes)).replay.apply c =
        (.error (.columnAlreadyExists "past" "total"), c') ∧
      (∃ t, c'.table past = .ok t) ∧ c'.without past = c.without (.ofName "orders") := by
  intro c total changes past
  have htable : ∃ t, c.table (.ofName "orders") = .ok t := exists_of_isOk (by decide +kernel)
  have hschemas : ∀ s, .setSchema s ∈ changes → s ≠ "" := by
    intro s hs
    obtain rfl : s = "archive" := by simpa [changes, total] using hs
    decide
  have hname : (c.alter (c.qualify (.ofName "orders")) changes).name = past := by decide +kernel
  have hresult : (c.alter (c.qualify (.ofName "orders")) changes).result =
      .error (.columnAlreadyExists "past" "total") := by decide +kernel
  have h := replay_alterTable {} _ (.ofName "orders") false changes htable hschemas
  dsimp only at h
  rw [hname, hresult] at h
  exact ⟨_, h⟩

end Catalog

end TypedSql
