import TypedSql.Proofs.Catalog.Reachable

/-!
# Dropping what may be missing

A statement that drops objects if they exist goes on after each one that is missing, be it the object or
its schema. So it takes out the objects that its names stand for and does nothing else, and neither the
order of the names nor a repetition is seen in the catalog that it leads to.
-/

namespace TypedSql

namespace Dict

variable {β : Type}

theorem filter_filter (d : Dict β) (p q : String → Bool) :
    (d.filter p).filter q = d.filter fun k => p k && q k := by
  refine ext_get? fun j => ?_
  simp only [get?_filter]
  cases p j <;> cases q j <;> rfl

theorem filter_true (d : Dict β) : (d.filter fun _ => true) = d := by
  refine ext_get? fun j => ?_
  rw [get?_filter, if_pos rfl]

theorem erase_eq_filter (d : Dict β) (k : String) : d.erase k = d.filter fun j => !k == j := by
  refine ext_get? fun j => ?_
  rw [get?_erase, get?_filter]
  by_cases h : j = k
  · simp [h]
  · simp [h, Ne.symm h]

end Dict

namespace Catalog

def means (c : Catalog) (targets : List QualifiedName) (schema name : String) : Bool :=
  targets.any fun n => c.schemaName n == schema && n.name == name

def mapSchemas (c : Catalog) (f : String → Schema → Schema) : Catalog :=
  { c with schemas := c.schemas.mapValues f }

/-- The catalog without the objects of a kind that some names stand for. The last part of a name stands
for a schema. -/
def withoutAll (c : Catalog) (targets : List QualifiedName) : DropKind → Catalog
  | .table => c.mapSchemas fun schema s =>
      { s with tables := s.tables.filter fun name => !c.means targets schema name }
  | .type => c.mapSchemas fun schema s =>
      { s with types := s.types.filter fun name => !c.means targets schema name }
  | .schema => { c with schemas := c.schemas.filter fun schema => !targets.any (·.name == schema) }

variable {c : Catalog}

theorem mapSchemas_mapSchemas (f g : String → Schema → Schema) :
    (c.mapSchemas f).mapSchemas g = c.mapSchemas fun k s => g k (f k s) := by
  unfold mapSchemas
  congr 1
  refine Dict.ext_get? fun k => ?_
  simp only [Dict.get?_mapValues, Option.map_map, Function.comp_def]

theorem mapSchemas_eq_self {f : String → Schema → Schema}
    (h : ∀ k s, c.schemas.get? k = some s → f k s = s) : c.mapSchemas f = c := by
  have hschemas : c.schemas.mapValues f = c.schemas := by
    refine Dict.ext_get? fun k => ?_
    rw [Dict.get?_mapValues]
    cases hs : c.schemas.get? k with
    | none => rfl
    | some s => rw [Option.map_some, h k s hs]
  rw [mapSchemas, hschemas]

theorem mapSchemas_of_get? {schema : String} {s : Schema} (h : c.schemas.get? schema = some s)
    (g : Schema → Schema) :
    (c.mapSchemas fun k s => if k = schema then g s else s) =
      { c with schemas := c.schemas.insert schema (g s) } := by
  unfold mapSchemas
  congr 1
  refine Dict.ext_get? fun k => ?_
  rw [Dict.get?_mapValues, Dict.get?_insert]
  by_cases hk : k = schema
  · simp [hk, h]
  · simp [hk]

@[simp] theorem means_nil (schema name : String) : c.means [] schema name = false := rfl

theorem means_append (a b : List QualifiedName) (schema name : String) :
    c.means (a ++ b) schema name = (c.means a schema name || c.means b schema name) :=
  List.any_append

theorem filter_means_singleton {β : Type} (n : QualifiedName) (schema : String) (d : Dict β) :
    (d.filter fun name => !c.means [n] schema name) =
      if schema = c.schemaName n then d.erase n.name else d := by
  by_cases h : schema = c.schemaName n
  · simp [means, h, Dict.erase_eq_filter]
  · have hne : (c.schemaName n == schema) = false := beq_false_of_ne (Ne.symm h)
    simp [means, h, hne, Dict.filter_true]

theorem withoutAll_nil (kind : DropKind) : c.withoutAll [] kind = c := by
  cases kind with
  | table => exact mapSchemas_eq_self fun k s _ => by simp [Dict.filter_true]
  | type => exact mapSchemas_eq_self fun k s _ => by simp [Dict.filter_true]
  | schema => simp [withoutAll, Dict.filter_true]

theorem withoutAll_withoutAll (a b : List QualifiedName) (kind : DropKind) :
    (c.withoutAll a kind).withoutAll b kind = c.withoutAll (a ++ b) kind := by
  have hmeans : ∀ f, (c.mapSchemas f).means b = c.means b := fun _ => rfl
  cases kind <;> simp only [withoutAll, hmeans, mapSchemas_mapSchemas, Dict.filter_filter, means_append,
    List.any_append, Bool.not_or]

theorem withoutAll_congr {a b : List QualifiedName} (h : ∀ n, n ∈ a ↔ n ∈ b) (kind : DropKind) :
    c.withoutAll a kind = c.withoutAll b kind := by
  have hany : ∀ p : QualifiedName → Bool, a.any p = b.any p := by
    intro p
    rw [Bool.eq_iff_iff, List.any_eq_true, List.any_eq_true]
    simp only [h]
  cases kind <;> simp only [withoutAll, means, hany]

end Catalog

namespace Schema

theorem removeTable_or (s : Schema) (name : String) :
    s.removeTable name = .ok { s with tables := s.tables.erase name } ∨
      { s with tables := s.tables.erase name } = s ∧
        ∃ e, s.removeTable name = .error e ∧ e.isNotFound = true := by
  cases h : s.tables.get? name with
  | some t => exact .inl (removeTable_eq_ok.mpr ⟨⟨t, h⟩, rfl⟩)
  | none =>
    refine .inr ⟨by rw [Dict.erase_of_get?_eq_none h], .relationNotFound name, ?_, rfl⟩
    rw [removeTable, table, h]
    rfl

theorem removeType_or (s : Schema) (name : String) :
    s.removeType name = .ok { s with types := s.types.erase name } ∨
      { s with types := s.types.erase name } = s ∧
        ∃ e, s.removeType name = .error e ∧ e.isNotFound = true := by
  cases h : s.types.get? name with
  | some t => exact .inl (removeType_eq_ok.mpr ⟨⟨t, h⟩, rfl⟩)
  | none =>
    refine .inr ⟨by rw [Dict.erase_of_get?_eq_none h], .typeNotFound name, ?_, rfl⟩
    rw [removeType, type, h]
    rfl

end Schema

namespace Change

theorem apply_onSchemaOf_forgive {f : Schema → Except Error Schema} {g : Schema → Schema}
    (hf : ∀ s, f s = .ok (g s) ∨ g s = s ∧ ∃ e, f s = .error e ∧ e.isNotFound = true)
    (n : QualifiedName) (c : Catalog) :
    ((onSchemaOf n f).forgive true Error.isNotFound).apply c =
      (.ok (), c.mapSchemas fun k s => if k = c.schemaName n then g s else s) := by
  rw [apply_forgive, apply_onSchemaOf, apply_onSchema]
  cases hs : c.schemas.get? (c.schemaName n) with
  | none =>
    have hself : (c.mapSchemas fun k s => if k = c.schemaName n then g s else s) = c := by
      refine Catalog.mapSchemas_eq_self fun k s hk => if_neg ?_
      rintro rfl
      rw [hs] at hk
      cases hk
    rw [hself, Catalog.schema, hs]
    rfl
  | some s =>
    rw [Catalog.mapSchemas_of_get? hs, Catalog.schema_eq_ok.mpr hs, ok_bind]
    rcases hf s with hok | ⟨hself, e, he, hmissing⟩
    · rw [hok]
    · rw [he, hself, Dict.insert_get? hs]
      simp [hmissing]

theorem apply_dropSchema_forgive (name : String) (c : Catalog) :
    ((dropSchema name).forgive true Error.isNotFound).apply c =
      (.ok (), { c with schemas := c.schemas.erase name }) := by
  rw [apply_forgive, apply_dropSchema]
  cases hs : c.schemas.get? name with
  | none =>
    rw [Catalog.schema, hs, Dict.erase_of_get?_eq_none hs]
    rfl
  | some s => rw [Catalog.schema_eq_ok.mpr hs]

end Change

namespace Definition

theorem apply_dropObject_forgive (kind : DropKind) (n : QualifiedName) (c : Catalog) :
    ((dropObject kind n).forgive true Error.isNotFound).apply c = (.ok (), c.withoutAll [n] kind) := by
  cases kind with
  | table =>
    refine (Change.apply_onSchemaOf_forgive (fun s => s.removeTable_or n.name) n c).trans ?_
    simp only [Catalog.withoutAll, Catalog.filter_means_singleton]
    congr 2
    funext k s
    split <;> rfl
  | type =>
    refine (Change.apply_onSchemaOf_forgive (fun s => s.removeType_or n.name) n c).trans ?_
    simp only [Catalog.withoutAll, Catalog.filter_means_singleton]
    congr 2
    funext k s
    split <;> rfl
  | schema =>
    refine (Change.apply_dropSchema_forgive n.name c).trans ?_
    simp [Catalog.withoutAll, Dict.erase_eq_filter]

theorem apply_forM_dropObject (kind : DropKind) (targets : List QualifiedName) (c : Catalog) :
    (targets.forM fun n => (dropObject kind n).forgive true Error.isNotFound).apply c =
      (.ok (), c.withoutAll targets kind) := by
  induction targets generalizing c with
  | nil =>
    rw [Catalog.withoutAll_nil]
    rfl
  | cons n targets ih =>
    change (((dropObject kind n).forgive true Error.isNotFound) >>= fun _ => targets.forM _).apply c = _
    -- the other names are dropped from what the first one leaves, where they stand for the same
    rw [Change.apply_bind, apply_dropObject_forgive]
    refine (ih _).trans ?_
    rw [Catalog.withoutAll_withoutAll, List.singleton_append]

end Definition

namespace Statement

theorem apply_replay_drop (kind : DropKind) (targets : List QualifiedName) (c : Catalog) :
    (Statement.define (.drop kind targets true)).replay.apply c =
      (.ok .applied, c.withoutAll targets kind) := by
  change ((targets.forM fun n => (Definition.dropObject kind n).forgive true Error.isNotFound) >>=
    fun _ => pure Outcome.applied).apply c = _
  rw [Change.apply_bind, Definition.apply_forM_dropObject]
  rfl

/-- Dropping objects if they exist succeeds in every catalog. It takes out the objects that the names stand
for and nothing else, it changes nothing when it is done again, and it does the same for the names in any
order. -/
theorem replay_drop_ifExists (c : Catalog) (kind : DropKind) (targets : List QualifiedName) :
    let drop (ns : List QualifiedName) (c : Catalog) :=
      (Statement.define (.drop kind ns true)).replay.apply c
    drop targets c = (.ok .applied, c.withoutAll targets kind) ∧
      drop targets (c.withoutAll targets kind) = (.ok .applied, c.withoutAll targets kind) ∧
      ∀ targets', targets.Perm targets' → drop targets' c = drop targets c := by
  intro drop
  have hdrop : ∀ ns c, drop ns c = (.ok .applied, c.withoutAll ns kind) :=
    fun ns c => apply_replay_drop kind ns c
  refine ⟨hdrop targets c, ?_, fun targets' hperm => ?_⟩
  · have hmem : ∀ n, n ∈ targets ++ targets ↔ n ∈ targets := by simp
    rw [hdrop, Catalog.withoutAll_withoutAll, Catalog.withoutAll_congr hmem]
  · rw [hdrop, hdrop, Catalog.withoutAll_congr fun n => hperm.mem_iff]

theorem replay_drop_ifExists_reverse :
    let c := (Catalog.initial {}).run
      [.createTable (.ofName "orders") [], .createTable (.ofName "past") [],
        .createEnum (.ofName "mood") ["ok"]]
    let targets : List QualifiedName :=
      [.ofName "orders", .ofSchema "missing" "past", .ofSchema "public" "orders", .ofName "mood"]
    let dropped := (Statement.define (.drop .table targets true)).replay.apply c
    (Statement.define (.drop .table targets.reverse true)).replay.apply c = dropped ∧
      dropped.1 = .ok .applied ∧ dropped.2 = c.withoutAll [.ofName "orders"] .table ∧ dropped.2 ≠ c := by
  intro c targets dropped
  obtain ⟨hdropped, -, hperm⟩ := replay_drop_ifExists c .table targets
  refine ⟨hperm _ targets.reverse_perm.symm, congrArg Prod.fst hdropped, ?_, ?_⟩
  · exact (congrArg Prod.snd hdropped).trans (by decide +kernel)
  · exact fun hsame => absurd ((congrArg Prod.snd hdropped).symm.trans hsame) (by decide +kernel)

end Statement

end TypedSql
