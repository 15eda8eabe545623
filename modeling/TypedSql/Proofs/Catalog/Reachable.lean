import TypedSql.Catalog.Replay
import TypedSql.Proofs.Catalog.WellFormed

/-!
# Catalogs that changes lead to

A change is described by `Change.apply`, which answers the catalog after the change also if the change
fails. What every step of a change keeps, the change keeps, so the rules of well-formed catalogs hold
after any sequence of elementary changes and replayed statements, failed ones included.
-/

namespace TypedSql

structure Catalog.WellFormed (c : Catalog) : Prop where
  schema_name : ∀ name s, c.schemas.get? name = some s → s.name = name
  schema_wellFormed : ∀ name s, c.schemas.get? name = some s → s.WellFormed

namespace Catalog

theorem wellFormed_insert {c : Catalog} (h : c.WellFormed) {name : String} {s : Schema}
    (hname : s.name = name) (hs : s.WellFormed) :
    WellFormed { c with schemas := c.schemas.insert name s } := by
  constructor
  · intro k u hu
    rw [Dict.get?_insert] at hu
    split at hu
    · rename_i hk
      rw [← Option.some.inj hu, hk, hname]
    · exact h.schema_name k u hu
  · intro k u hu
    rw [Dict.get?_insert] at hu
    split at hu
    · rw [← Option.some.inj hu]
      exact hs
    · exact h.schema_wellFormed k u hu

theorem wellFormed_erase {c : Catalog} (h : c.WellFormed) (name : String) :
    WellFormed { c with schemas := c.schemas.erase name } := by
  have hget : ∀ k u, (c.schemas.erase name).get? k = some u → c.schemas.get? k = some u := by
    intro k u hu
    rw [Dict.get?_erase] at hu
    split at hu
    · cases hu
    · exact hu
  exact ⟨fun k u hu => h.schema_name k u (hget k u hu),
    fun k u hu => h.schema_wellFormed k u (hget k u hu)⟩

theorem schema_eq_ok {c : Catalog} {name : String} {s : Schema} :
    c.schema name = .ok s ↔ c.schemas.get? name = some s := by
  unfold schema
  split <;> simp_all

theorem table_eq_ok {c : Catalog} {n : QualifiedName} {t : Table} :
    c.table n = .ok t ↔
      ∃ s, c.schemas.get? (c.schemaName n) = some s ∧ s.tables.get? n.name = some t := by
  simp only [table, bind_eq_ok, schema_eq_ok, Schema.table_eq_ok]

theorem initial_wellFormed (settings : Settings) : (initial settings).WellFormed := by
  have hempty : WellFormed
      { defaultSchema := settings.defaultSchema, functionPath := settings.functionSearchPath,
        schemas := .empty } := by
    constructor <;> simp
  have hsystem : Schema.WellFormed { name := systemSchema, functions := .builtins } :=
    { Schema.wellFormed_empty systemSchema with functions_wellFormed := Functions.builtins_wellFormed }
  exact wellFormed_insert
    (wellFormed_insert (wellFormed_insert hempty rfl hsystem) rfl (Schema.wellFormed_empty _)) rfl
    (Schema.wellFormed_empty _)

end Catalog

namespace Change

variable {α β : Type}

@[simp] theorem apply_pure (a : α) (c : Catalog) : (pure a : Change α).apply c = (.ok a, c) := rfl

@[simp] theorem apply_throw (e : Error) (c : Catalog) :
    (throw e : Change α).apply c = (.error e, c) := rfl

theorem apply_bind (m : Change α) (f : α → Change β) (c : Catalog) :
    (m >>= f).apply c =
      match m.apply c with
      | (.ok a, c') => (f a).apply c'
      | (.error e, c') => (.error e, c') := by
  rcases h : m.apply c with ⟨r, c'⟩
  have hrun : StateT.run (ExceptT.run m) c = (r, c') := h
  change StateT.run (ExceptT.run (m >>= f)) c = _
  rw [ExceptT.run_bind, StateT.run_bind, hrun]
  cases r <;> rfl

@[simp] theorem apply_get_bind (f : Catalog → Change α) (c : Catalog) :
    (get >>= f).apply c = (f c).apply c := rfl

theorem apply_lift_bind (x : Except Error α) (f : α → Change β) (c : Catalog) :
    ((liftM x : Change α) >>= f).apply c =
      match x with
      | .ok a => (f a).apply c
      | .error e => (.error e, c) := by
  cases x <;> rfl

theorem apply_onSchema (name : String) (f : Schema → Except Error Schema) (c : Catalog) :
    (onSchema name f).apply c =
      match c.schema name >>= f with
      | .ok s => (.ok (), { c with schemas := c.schemas.insert name s })
      | .error e => (.error e, c) := by
  unfold onSchema
  rw [apply_get_bind, apply_lift_bind]
  cases c.schema name with
  | error e => rfl
  | ok s =>
    rw [ok_bind]
    dsimp only
    rw [apply_lift_bind]
    cases f s <;> rfl

theorem apply_onSchemaOf (n : QualifiedName) (f : Schema → Except Error Schema) (c : Catalog) :
    (onSchemaOf n f).apply c = (onSchema (c.schemaName n) f).apply c := by
  unfold onSchemaOf
  rw [apply_get_bind]

theorem apply_forgive (m : Change Unit) (allowed : Bool) (family : Error → Bool) (c : Catalog) :
    (m.forgive allowed family).apply c =
      match m.apply c with
      | (.ok a, c') => (.ok a, c')
      | (.error e, c') => if allowed && family e then (.ok (), c') else (.error e, c') := by
  rcases h : m.apply c with ⟨r, c'⟩
  have hrun : StateT.run (ExceptT.run m) c = (r, c') := h
  change StateT.run (ExceptT.run (tryCatch m _)) c = _
  rw [ExceptT.run_tryCatch, StateT.run_bind, hrun]
  cases r with
  | ok a => rfl
  | error e =>
    change StateT.run (ExceptT.run (if allowed && family e then pure () else throw e)) c' = _
    dsimp only
    split <;> rfl

theorem apply_createSchema (name : String) (c : Catalog) :
    (createSchema name).apply c =
      if c.schemas.contains name then (.error (.schemaAlreadyExists name), c)
      else (.ok (), { c with schemas := c.schemas.insert name { name } }) := by
  unfold createSchema
  rw [apply_get_bind]
  split <;> rfl

theorem apply_dropSchema (name : String) (c : Catalog) :
    (dropSchema name).apply c =
      match c.schema name with
      | .ok _ => (.ok (), { c with schemas := c.schemas.erase name })
      | .error e => (.error e, c) := by
  unfold dropSchema
  rw [apply_get_bind, apply_lift_bind]
  cases c.schema name <;> rfl

theorem apply_createTable (n : QualifiedName) (columns : List ColumnDef) (c : Catalog) :
    (createTable n columns).apply c =
      match Table.repeatedColumn? (Table.ofDefs (c.qualify n) columns).columns [] with
      | some name => (.error (.columnAlreadyExists n.name name), c)
      | none =>
        (onSchema (c.schemaName n) (·.insertTable (Table.ofDefs (c.qualify n) columns))).apply c := by
  unfold createTable
  rw [apply_get_bind]
  dsimp only
  cases Table.repeatedColumn? (Table.ofDefs (c.qualify n) columns).columns [] <;> rfl

theorem apply_createFunction (schema : String) (f : Function) (replace : Bool) (c : Catalog) :
    (createFunction schema f replace).apply c = (onSchema schema (·.addFunction f replace)).apply c := by
  unfold createFunction
  rw [apply_bind, apply_onSchema, apply_onSchema]
  cases hs : c.schema schema with
  | error e => rfl
  | ok s =>
    have hget := Catalog.schema_eq_ok.mp hs
    have hreserved : Catalog.schema
        { c with schemas := c.schemas.insert schema (s.reserveFunctions f.name) } schema =
          .ok (s.reserveFunctions f.name) :=
      Catalog.schema_eq_ok.mpr (Dict.get?_insert_self _ _ _)
    simp only [ok_bind, pure_eq_ok]
    rw [apply_onSchema, hreserved, ok_bind, Schema.addFunction_reserveFunctions]
    cases hadd : s.addFunction f replace with
    | ok s' => simp only [Dict.insert_insert]
    | error e =>
      rw [Schema.reserveFunctions_of_addFunction hadd, Dict.insert_get? hget]

theorem apply_renameTable (n : QualifiedName) (new : String) (c : Catalog) :
    (renameTable n new).apply c =
      match c.schema (c.schemaName n) with
      | .error e => (.error e, c)
      | .ok s =>
        match s.table n.name, s.checkTableFree new with
        | .error e, _ => (.error e, c)
        | .ok _, .error e => (.error e, c)
        | .ok t, .ok _ =>
          (relocate (c.schemaName n) n.name (c.schemaName n)
            (t.setName (.ofSchema s.name new))).apply c := by
  unfold renameTable
  rw [apply_get_bind, apply_lift_bind]
  cases c.schema (c.schemaName n) with
  | error e => rfl
  | ok s =>
    dsimp only
    rw [apply_lift_bind]
    cases s.table n.name with
    | error e => rfl
    | ok t =>
      dsimp only
      rw [apply_lift_bind]
      cases s.checkTableFree new <;> rfl

theorem apply_moveTable (n : QualifiedName) (target : String) (c : Catalog) :
    (moveTable n target).apply c =
      match c.table n, c.schema target >>= (·.checkTableFree n.name) with
      | .error e, _ => (.error e, c)
      | .ok _, .error e => (.error e, c)
      | .ok t, .ok _ =>
        (relocate (c.schemaName n) n.name target (t.setName { t.rel with schema := target })).apply c := by
  unfold moveTable
  rw [apply_get_bind, apply_lift_bind]
  cases c.table n with
  | error e => rfl
  | ok t =>
    dsimp only
    rw [apply_lift_bind]
    cases c.schema target with
    | error e => rfl
    | ok s =>
      rw [ok_bind]
      dsimp only
      rw [apply_lift_bind]
      cases s.checkTableFree n.name <;> rfl

/-- A property of catalogs that holds after a change, whether or not the change fails. -/
def Keeps (P : Catalog → Prop) (m : Change α) : Prop :=
  ∀ c, P c → P (m.apply c).2

variable {P : Catalog → Prop}

theorem keeps_pure (a : α) : Keeps P (pure a) :=
  fun _ hc => hc

theorem keeps_throw (e : Error) : Keeps P (throw e : Change α) :=
  fun _ hc => hc

theorem Keeps.bind {m : Change α} {f : α → Change β} (hm : Keeps P m) (hf : ∀ a, Keeps P (f a)) :
    Keeps P (m >>= f) := by
  intro c hc
  have hc' := hm c hc
  rw [apply_bind]
  rcases h : m.apply c with ⟨r | a, c'⟩
  · rw [h] at hc'
    exact hc'
  · rw [h] at hc'
    exact hf a c' hc'

theorem keeps_get_bind {f : Catalog → Change α} (hf : ∀ c, Keeps P (f c)) : Keeps P (get >>= f) :=
  fun c hc => hf c c hc

theorem Keeps.forgive {m : Change Unit} (hm : Keeps P m) (allowed : Bool) (family : Error → Bool) :
    Keeps P (m.forgive allowed family) := by
  intro c hc
  have hc' := hm c hc
  rw [apply_forgive]
  rcases h : m.apply c with ⟨r | a, c'⟩
  · rw [h] at hc'
    dsimp only
    split <;> exact hc'
  · rw [h] at hc'
    exact hc'

theorem keeps_forM {γ : Type} {f : γ → Change Unit} (hf : ∀ a, Keeps P (f a)) (l : List γ) :
    Keeps P (l.forM f) := by
  induction l with
  | nil => exact keeps_pure ()
  | cons a l ih => exact (hf a).bind fun _ => ih

theorem keeps_foldlM {γ : Type} {f : β → γ → Change β} (hf : ∀ b a, Keeps P (f b a)) (l : List γ)
    (b : β) : Keeps P (l.foldlM f b) := by
  induction l generalizing b with
  | nil => exact keeps_pure b
  | cons a l ih =>
    rw [List.foldlM_cons]
    exact (hf b a).bind fun b' => ih b'

theorem keeps_onSchema {name : String} {f : Schema → Except Error Schema}
    (hf : ∀ s s', s.name = name → s.WellFormed → f s = .ok s' → s.Keeps s') :
    Keeps Catalog.WellFormed (onSchema name f) := by
  intro c hc
  rw [apply_onSchema]
  split
  · rename_i s' hs'
    obtain ⟨s, hs, hfs⟩ := bind_eq_ok.mp hs'
    have hget := Catalog.schema_eq_ok.mp hs
    have hname := hc.schema_name name s hget
    obtain ⟨hname', hwf⟩ := hf s s' hname (hc.schema_wellFormed name s hget) hfs
    exact Catalog.wellFormed_insert hc (hname'.trans hname) hwf
  · exact hc

theorem keeps_onSchemaOf {n : QualifiedName} {f : Schema → Except Error Schema}
    (hf : ∀ s s', s.WellFormed → f s = .ok s' → s.Keeps s') :
    Keeps Catalog.WellFormed (onSchemaOf n f) :=
  keeps_get_bind fun _ => keeps_onSchema fun s s' _ => hf s s'

theorem keeps_onTable {n : QualifiedName} {f : Table → Except Error Table}
    (hf : ∀ t t', t.WellFormed → f t = .ok t' → t.Keeps t') :
    Keeps Catalog.WellFormed (onTable n f) :=
  keeps_onSchemaOf fun _ _ hs => Schema.modifyTable_keeps hs hf

theorem keeps_onColumn {n : QualifiedName} {column : String} {f : Column → Column}
    (hname : ∀ c, (f c).name = c.name) (htable : ∀ c, (f c).table = c.table)
    (harray : ∀ c, (c.isArray = true ↔ 0 < c.dims) → ((f c).isArray = true ↔ 0 < (f c).dims)) :
    Keeps Catalog.WellFormed (onTable n (·.modifyColumn column f)) :=
  keeps_onTable fun _ _ ht => Table.modifyColumn_keeps ht hname htable harray

theorem keeps_createSchema (name : String) : Keeps Catalog.WellFormed (createSchema name) := by
  intro c hc
  rw [apply_createSchema]
  split
  · exact hc
  · exact Catalog.wellFormed_insert hc rfl (Schema.wellFormed_empty name)

theorem keeps_dropSchema (name : String) : Keeps Catalog.WellFormed (dropSchema name) := by
  intro c hc
  rw [apply_dropSchema]
  split
  · exact Catalog.wellFormed_erase hc name
  · exact hc

theorem keeps_createTable (n : QualifiedName) (columns : List ColumnDef) :
    Keeps Catalog.WellFormed (createTable n columns) := by
  intro c hc
  rw [apply_createTable]
  split
  · exact hc
  · rename_i hnone
    have ht := Table.ofDefs_wellFormed hnone
    refine keeps_onSchema (fun s s' hname hs hins => ?_) c hc
    exact Schema.insertTable_keeps hs ht hname.symm hins

theorem keeps_dropTable (n : QualifiedName) : Keeps Catalog.WellFormed (dropTable n) :=
  keeps_onSchemaOf fun _ _ => Schema.removeTable_keeps

theorem keeps_relocate {source name target : String} {t : Table} (ht : t.WellFormed)
    (htarget : t.rel.schema = target) : Keeps Catalog.WellFormed (relocate source name target t) := by
  refine Keeps.bind ?_ fun _ => ?_
  · exact keeps_onSchema fun _ _ _ hs => Schema.removeTable_keeps hs
  · exact keeps_onSchema fun _ _ hname hs => Schema.insertTable_keeps hs ht (htarget.trans hname.symm)

theorem keeps_renameTable (n : QualifiedName) (new : String) :
    Keeps Catalog.WellFormed (renameTable n new) := by
  intro c hc
  rw [apply_renameTable]
  split
  · exact hc
  · rename_i s hs
    have hget := Catalog.schema_eq_ok.mp hs
    split
    · exact hc
    · exact hc
    · rename_i t _ ht _
      have hwf := (hc.schema_wellFormed _ s hget).table_wellFormed _ t (Schema.table_eq_ok.mp ht)
      have hname : s.name = c.schemaName n := hc.schema_name _ s hget
      exact keeps_relocate (Table.setName_wellFormed hwf (.ofSchema s.name new)) hname c hc

theorem keeps_moveTable (n : QualifiedName) (target : String) :
    Keeps Catalog.WellFormed (moveTable n target) := by
  intro c hc
  rw [apply_moveTable]
  split
  · exact hc
  · exact hc
  · rename_i t _ ht _
    obtain ⟨s, hs, hget⟩ := Catalog.table_eq_ok.mp ht
    have hwf := (hc.schema_wellFormed _ s hs).table_wellFormed _ t hget
    exact keeps_relocate (Table.setName_wellFormed hwf _) rfl c hc

theorem keeps_addColumn (n : QualifiedName) (d : ColumnDef) :
    Keeps Catalog.WellFormed (addColumn n d) :=
  keeps_onTable fun _ _ => Table.addColumn_keeps

theorem keeps_dropColumn (n : QualifiedName) (column : String) :
    Keeps Catalog.WellFormed (dropColumn n column) :=
  keeps_onTable fun _ _ => Table.dropColumn_keeps

theorem keeps_renameColumn (n : QualifiedName) (old new : String) :
    Keeps Catalog.WellFormed (renameColumn n old new) :=
  keeps_onTable fun _ _ => Table.renameColumn_keeps

theorem keeps_setColumnType (n : QualifiedName) (column : String) (type : TypeName) :
    Keeps Catalog.WellFormed (setColumnType n column type) := by
  refine keeps_onColumn (fun _ => rfl) (fun _ => rfl) fun c _ => ?_
  simp [Column.setType, TypeName.isArray]

theorem keeps_setNotNull (n : QualifiedName) (column : String) (notNull : Bool) :
    Keeps Catalog.WellFormed (setNotNull n column notNull) :=
  keeps_onColumn (fun _ => rfl) (fun _ => rfl) fun _ h => h

theorem keeps_createEnum (n : QualifiedName) (labels : List String) :
    Keeps Catalog.WellFormed (createEnum n labels) :=
  keeps_onSchemaOf fun _ _ => Schema.insertType_keeps

theorem keeps_createComposite (n : QualifiedName) : Keeps Catalog.WellFormed (createComposite n) :=
  keeps_onSchemaOf fun _ _ => Schema.insertType_keeps

theorem keeps_dropType (n : QualifiedName) : Keeps Catalog.WellFormed (dropType n) :=
  keeps_onSchemaOf fun _ _ => Schema.removeType_keeps

theorem keeps_createFunction (schema : String) (f : Function) (replace : Bool) :
    Keeps Catalog.WellFormed (createFunction schema f replace) := by
  intro c hc
  rw [apply_createFunction]
  exact keeps_onSchema (fun _ _ _ => Schema.addFunction_keeps) c hc

theorem keeps_dropFunction (s : Signature QualifiedName) :
    Keeps Catalog.WellFormed (dropFunction s) :=
  keeps_onSchemaOf fun _ _ => Schema.removeFunction_keeps

theorem keeps_setColumnComment (path : List String) (comment : Option String) :
    Keeps Catalog.WellFormed (setColumnComment path comment) := by
  have hon : ∀ n column, Keeps Catalog.WellFormed
      (onTable n (·.modifyColumn column ({ · with comment }))) :=
    fun _ _ => keeps_onColumn (fun _ => rfl) (fun _ => rfl) fun _ h => h
  unfold setColumnComment
  split
  · exact hon _ _
  · exact hon _ _
  · exact hon _ _
  · exact keeps_throw _

theorem keeps_setComment (target : CommentTarget QualifiedName) (comment : Option String) :
    Keeps Catalog.WellFormed (setComment target comment) := by
  cases target with
  | schema name =>
    refine keeps_onSchema fun s s' _ hs h => ?_
    rw [← Except.ok.inj h]
    exact ⟨rfl, { hs with }⟩
  | table n =>
    refine keeps_onTable fun t t' ht h => ?_
    rw [← Except.ok.inj h]
    exact ⟨rfl, { ht with }⟩
  | type n => exact keeps_onSchemaOf fun _ _ => Schema.commentType_keeps
  | column path => exact keeps_setColumnComment path comment

end Change

/-- What can be done to a catalog: an elementary change, or replaying a statement. -/
inductive Operation where
  | createSchema (name : String)
  | dropSchema (name : String)
  | createTable (n : QualifiedName) (columns : List ColumnDef)
  | dropTable (n : QualifiedName)
  | renameTable (n : QualifiedName) (new : String)
  | moveTable (n : QualifiedName) (target : String)
  | addColumn (n : QualifiedName) (column : ColumnDef)
  | dropColumn (n : QualifiedName) (column : String)
  | setColumnType (n : QualifiedName) (column : String) (type : TypeName)
  | setNotNull (n : QualifiedName) (column : String) (notNull : Bool)
  | renameColumn (n : QualifiedName) (old new : String)
  | createEnum (n : QualifiedName) (labels : List String)
  | createComposite (n : QualifiedName)
  | dropType (n : QualifiedName)
  | createFunction (schema : String) (f : Function) (replace : Bool)
  | dropFunction (s : Signature QualifiedName)
  | setComment (target : CommentTarget QualifiedName) (comment : Option String)
  | replay (s : Statement)

namespace Operation

def change : Operation → Change Unit
  | .createSchema name => Change.createSchema name
  | .dropSchema name => Change.dropSchema name
  | .createTable n columns => Change.createTable n columns
  | .dropTable n => Change.dropTable n
  | .renameTable n new => Change.renameTable n new
  | .moveTable n target => Change.moveTable n target
  | .addColumn n column => Change.addColumn n column
  | .dropColumn n column => Change.dropColumn n column
  | .setColumnType n column type => Change.setColumnType n column type
  | .setNotNull n column notNull => Change.setNotNull n column notNull
  | .renameColumn n old new => Change.renameColumn n old new
  | .createEnum n labels => Change.createEnum n labels
  | .createComposite n => Change.createComposite n
  | .dropType n => Change.dropType n
  | .createFunction schema f replace => Change.createFunction schema f replace
  | .dropFunction s => Change.dropFunction s
  | .setComment target comment => Change.setComment target comment
  | .replay s => discard s.replay

def isElementary : Operation → Bool
  | .replay _ => false
  | _ => true

def Kept (P : Catalog → Prop) : Prop :=
  ∀ op : Operation, op.isElementary = true → Change.Keeps P op.change

theorem kept_wellFormed : Kept Catalog.WellFormed := by
  intro op hop
  cases op with
  | createSchema name => exact Change.keeps_createSchema name
  | dropSchema name => exact Change.keeps_dropSchema name
  | createTable n columns => exact Change.keeps_createTable n columns
  | dropTable n => exact Change.keeps_dropTable n
  | renameTable n new => exact Change.keeps_renameTable n new
  | moveTable n target => exact Change.keeps_moveTable n target
  | addColumn n column => exact Change.keeps_addColumn n column
  | dropColumn n column => exact Change.keeps_dropColumn n column
  | setColumnType n column type => exact Change.keeps_setColumnType n column type
  | setNotNull n column notNull => exact Change.keeps_setNotNull n column notNull
  | renameColumn n old new => exact Change.keeps_renameColumn n old new
  | createEnum n labels => exact Change.keeps_createEnum n labels
  | createComposite n => exact Change.keeps_createComposite n
  | dropType n => exact Change.keeps_dropType n
  | createFunction schema f replace => exact Change.keeps_createFunction schema f replace
  | dropFunction s => exact Change.keeps_dropFunction s
  | setComment target comment => exact Change.keeps_setComment target comment
  | replay s => cases hop

end Operation

-- A statement is replayed by elementary changes, so it keeps what all of these keep.
section

variable {P : Catalog → Prop} (h : Operation.Kept P)

include h

theorem TableChange.keeps_replay (table : QualifiedName) (change : TableChange) :
    Change.Keeps P (change.replay table) := by
  cases change with
  | addColumn column ifNotExists =>
    exact ((h (.addColumn table column) rfl).forgive _ _).bind fun _ => Change.keeps_pure _
  | dropColumn column ifExists =>
    exact ((h (.dropColumn table column) rfl).forgive _ _).bind fun _ => Change.keeps_pure _
  | setNotNull column =>
    exact (h (.setNotNull table column true) rfl).bind fun _ => Change.keeps_pure _
  | dropNotNull column =>
    exact (h (.setNotNull table column false) rfl).bind fun _ => Change.keeps_pure _
  | setType column type =>
    exact (h (.setColumnType table column type) rfl).bind fun _ => Change.keeps_pure _
  | renameColumn old new =>
    exact (h (.renameColumn table old new) rfl).bind fun _ => Change.keeps_pure _
  | renameTable new =>
    exact (h (.renameTable table new) rfl).bind fun _ => Change.keeps_pure _
  | setSchema schema =>
    exact (h (.moveTable table schema) rfl).bind fun _ => Change.keeps_pure _
  | unsupported kind => exact Change.keeps_pure _

namespace Definition

theorem keeps_replayTable (n : QualifiedName) (ifNotExists : Bool) (columns : List ColumnDef) :
    Change.Keeps P (replayTable n ifNotExists columns) := by
  refine Change.keeps_get_bind fun c => ?_
  split
  · exact Change.keeps_pure _
  · exact (h (.createTable n columns) rfl).bind fun _ => Change.keeps_pure _

theorem keeps_replayChanges (table : QualifiedName) (ifExists : Bool) (changes : List TableChange) :
    Change.Keeps P (replayChanges table ifExists changes) := by
  refine Change.keeps_get_bind fun c => ?_
  dsimp only
  split
  · exact (Change.keeps_foldlM (TableChange.keeps_replay h) changes _).bind fun _ => Change.keeps_pure _
  · split
    · exact Change.keeps_pure _
    · exact Change.keeps_throw _

theorem keeps_dropObject (kind : DropKind) (n : QualifiedName) : Change.Keeps P (dropObject kind n) := by
  cases kind with
  | table => exact h (.dropTable n) rfl
  | type => exact h (.dropType n) rfl
  | schema => exact h (.dropSchema n.name) rfl

theorem keeps_replaySchema (name : String) (ifNotExists : Bool) :
    Change.Keeps P (replaySchema name ifNotExists) := by
  refine Change.keeps_get_bind fun c => ?_
  split
  · exact Change.keeps_pure _
  · exact (h (.createSchema name) rfl).bind fun _ => Change.keeps_pure _

theorem keeps_replay (d : Definition QualifiedName) : Change.Keeps P d.replay := by
  cases d with
  | createTable n ifNotExists columns => exact keeps_replayTable h n ifNotExists columns
  | alterTable table ifExists changes => exact keeps_replayChanges h table ifExists changes
  | drop kind targets ifExists =>
    refine Change.Keeps.bind (Change.keeps_forM (fun n => ?_) targets) fun _ => Change.keeps_pure _
    exact (keeps_dropObject h kind n).forgive _ _
  | createSchema name ifNotExists => exact keeps_replaySchema h name ifNotExists
  | createEnum n labels => exact (h (.createEnum n labels) rfl).bind fun _ => Change.keeps_pure _
  | createComposite n => exact (h (.createComposite n) rfl).bind fun _ => Change.keeps_pure _
  | createFunction n parameters returns replace =>
    refine Change.keeps_get_bind fun c => ?_
    exact (h (.createFunction _ _ replace) rfl).bind fun _ => Change.keeps_pure _
  | dropFunction functions ifExists =>
    refine Change.Keeps.bind (Change.keeps_forM (fun f => ?_) functions) fun _ => Change.keeps_pure _
    exact (h (.dropFunction f) rfl).forgive _ _
  | comment target text => exact (h (.setComment target text) rfl).bind fun _ => Change.keeps_pure _

end Definition

theorem Statement.keeps_replay (s : Statement) : Change.Keeps P s.replay := by
  cases s with
  | define d => exact Definition.keeps_replay h d
  | _ => exact Change.keeps_pure _

theorem Operation.Kept.keeps_change (op : Operation) : Change.Keeps P op.change := by
  cases op with
  | replay s => exact (Statement.keeps_replay h s).bind fun _ => Change.keeps_pure ()
  | _ => exact h _ rfl

end

namespace Catalog

def after (c : Catalog) (op : Operation) : Catalog :=
  (op.change.apply c).2

def run (c : Catalog) (ops : List Operation) : Catalog :=
  ops.foldl after c

theorem run_of_kept {P : Catalog → Prop} (h : Operation.Kept P) {c : Catalog} (hc : P c)
    (ops : List Operation) : P (c.run ops) := by
  induction ops generalizing c with
  | nil => exact hc
  | cons op ops ih => exact ih (h.keeps_change op c hc)

theorem run_wellFormed {c : Catalog} (h : c.WellFormed) (ops : List Operation) :
    (c.run ops).WellFormed :=
  run_of_kept Operation.kept_wellFormed h ops

/-- Every catalog that operations lead to from an initial one is well formed, failed operations
included. -/
theorem run_initial_wellFormed (settings : Settings) (ops : List Operation) :
    ((initial settings).run ops).WellFormed :=
  run_wellFormed (initial_wellFormed settings) ops

end Catalog

end TypedSql
